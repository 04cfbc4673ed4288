import Mathlib.Data.List.Pairwise
import CloudAudit.Proofs.Collect.Whole
/-!
# One instant a collection

All resources that a collection stores bear its identifier and one instant. No two collections have
the identifier in common, and where the clock ticks, no instant either: then the resources of one
instant in the store are those of one collection.
-/
set_option autoImplicit false

namespace CloudAudit

theorem Collector.stamped_of_mem_batch {inventory : Inventory} {known : Table Resource}
    {collectId : String} {now : Instant} {groups : List String} {found : List Resource}
    (made : batch inventory known collectId now groups = .ok found) :
    ∀ snapshot ∈ found,
      snapshot.collectionUid = some collectId ∧ snapshot.timestamp = some now := by
  intro snapshot member
  rw [(batch_eq_ok_iff.1 made).2] at member
  obtain ⟨group, -, inGroup⟩ := List.mem_flatMap.1 member
  obtain ⟨resource, -, rfl⟩ := List.mem_map.1 inGroup
  exact ⟨rfl, rfl⟩

namespace Moment

variable (deployment : Deployment) (moment : Moment)

def stored (group : String) : List Resource :=
  ((moment.left deployment).store.resourcesOf group).drop
    (moment.books.store.resourcesOf group).length

theorem left_resourcesOf (group : String) :
    (moment.left deployment).store.resourcesOf group =
      moment.books.store.resourcesOf group ++ moment.stored deployment group := by
  obtain ⟨added, grown⟩ := steady_resources.step deployment moment.run moment.books group
  rw [stored, left, ← grown, List.drop_left]

/-- Whether a resource bears the identifier of the collection that is due at a moment, and an
instant during its phase. -/
structure Stamps (now : Instant) (resource : Resource) : Prop where
  due : moment.run.phase.due? .collect ≠ none
  collectionUid : resource.collectionUid = some moment.run.collectId
  timestamp : resource.timestamp = some now
  began : now.notBefore moment.books.supply.reading = true
  ended : (moment.left deployment).supply.now.notBefore now = true

theorem stored_of_same
    (same : (moment.left deployment).store.resources = moment.books.store.resources)
    (group : String) : moment.stored deployment group = [] := by
  rw [stored, Store.resourcesOf, Store.resourcesOf, same, List.drop_length]

theorem exists_stamp : ∃ now, ∀ group, ∀ resource ∈ moment.stored deployment group,
    moment.Stamps deployment now resource := by
  cases due : moment.run.phase.due? .collect with
  | none =>
    refine ⟨moment.books.supply.now, fun group resource member => ?_⟩
    rw [moment.stored_of_same deployment
      (Pipeline.step_sameResources deployment due moment.books)] at member
    cases member
  | some claim =>
    obtain ⟨skeletons, snapshots⟩ := Phase.eq_snapshotting due
    cases granted : claim.granted with
    | nil =>
      have same : moment.left deployment = moment.books := by
        simp only [left, Pipeline.step, snapshots, granted]
        rfl
      refine ⟨moment.books.supply.now, fun group resource member => ?_⟩
      rw [moment.stored_of_same deployment (by rw [same])] at member
      cases member
    | cons first more =>
      have isGranted : first ∈ claim.granted := granted ▸ List.mem_cons_self
      have collects : moment.left deployment =
          ((Collector.collect deployment moment.run.collectId claim.granted skeletons).run.run
            moment.books).2 :=
        left_snapshotting snapshots isGranted
      obtain ⟨now, added, made, kept, clock⟩ := Collector.collect_adds deployment
        moment.run.collectId claim.granted skeletons moment.books
      refine ⟨now, fun group resource member => ?_⟩
      have storedEq : moment.stored deployment group =
          added.filter fun snapshot => snapshot.resourceGroupName == group := by
        rw [stored, collects, kept, List.drop_left]
      rw [storedEq] at member
      have isAdded := (List.mem_filter.1 member).1
      obtain ⟨began, ended⟩ := clock (List.ne_nil_of_mem isAdded)
      rcases made with rfl | made
      · cases isAdded
      · obtain ⟨uid, time⟩ := Collector.stamped_of_mem_batch made resource isAdded
        refine ⟨?_, uid, time, began, by rw [collects]; exact ended⟩
        rw [due]
        exact Option.some_ne_none claim

end Moment

/-! ## All that is stored -/

theorem resources_lasting (deployment : Deployment) :
    Lasting deployment fun past _ books => ∀ group, books.store.resourcesOf group =
      past.flatMap fun moment => moment.stored deployment group where
  step := by
    intro past before after run books known _ group
    rw [List.flatMap_append, List.flatMap_singleton, ← known]
    exact Moment.left_resourcesOf deployment ⟨run, books⟩ group
  leave known _ := known
  underWay known _ := known
  permits known _ := known
  disturb known _ _ := known
  call := by
    intro past books caller request known group
    rw [← known, Store.resourcesOf, request.perform_sameResources, Store.resourcesOf]

/-- The resources of a group are what all phases stored under it, one after the other. -/
theorem Books.resources_after (deployment : Deployment) (supply : Supply) (events : List Event)
    (group : String) :
    ((Books.fresh supply).after deployment events).store.resourcesOf group =
      ((Books.fresh supply).moments deployment events).flatMap fun moment =>
        moment.stored deployment group := by
  have start : ∀ group, (Books.fresh supply).store.resourcesOf group =
      [].flatMap fun moment => Moment.stored deployment moment group := fun _ => rfl
  exact (resources_lasting deployment).after events start group

theorem Kept.pairwise {deployment : Deployment} {relation : Books → Books → Prop}
    {past : List Moment} {books : Books} (kept : Kept deployment relation past books) :
    past.Pairwise fun moment next => relation (moment.left deployment) next.books := by
  induction past with
  | nil => exact .nil
  | cons moment past ih =>
    refine List.pairwise_cons.2 ⟨(kept [] moment past rfl).1, ih ?_⟩
    intro before other later split
    exact kept (moment :: before) other later (by rw [split, List.cons_append])

/-- Whether what two moments store is from one collection exactly if it is of one instant. -/
def Moment.Agree (deployment : Deployment) (first second : Moment) : Prop :=
  ∀ group, ∀ one ∈ first.stored deployment group,
    ∀ other, ∀ resource ∈ second.stored deployment other,
      one.collectionUid = resource.collectionUid ↔ one.timestamp = resource.timestamp

namespace Moment.Agree

variable {deployment : Deployment} {first second : Moment}

instance symmetric : Std.Symm (Agree deployment) where
  symm _ _ agree other resource member group one isOne := by
    rw [eq_comm, agree group one isOne other resource member, eq_comm]

theorem refl (moment : Moment) : Agree deployment moment moment := by
  intro group one isOne other resource member
  obtain ⟨now, stamps⟩ := moment.exists_stamp deployment
  have oneStamp := stamps group one isOne
  have otherStamp := stamps other resource member
  rw [oneStamp.collectionUid, otherStamp.collectionUid, oneStamp.timestamp, otherStamp.timestamp]
  exact iff_of_true rfl rfl

/-- Of two runs that collect, the second one has another identifier and, where the clock ticks, a
later instant. -/
theorem of_later (ticks : second.books.supply.Ticks) (unlike : ¬ first.WorksLike second)
    (clock : second.books.supply.now.notBefore (first.left deployment).supply.now = true) :
    Agree deployment first second := by
  intro group one isOne other resource member
  obtain ⟨early, earlyStamps⟩ := first.exists_stamp deployment
  obtain ⟨late, lateStamps⟩ := second.exists_stamp deployment
  have oneStamp := earlyStamps group one isOne
  have otherStamp := lateStamps other resource member
  have differentUid : one.collectionUid ≠ resource.collectionUid := by
    intro same
    rw [oneStamp.collectionUid, otherStamp.collectionUid] at same
    exact unlike ⟨.collect, oneStamp.due, otherStamp.due, Option.some.inj same⟩
  have differentTime : one.timestamp ≠ resource.timestamp := by
    intro same
    rw [oneStamp.timestamp, otherStamp.timestamp] at same
    obtain rfl : early = late := Option.some.inj same
    have before := Instant.after_of_notBefore_of_after otherStamp.began ticks.reading_after
    exact Instant.after_irrefl _
      (Instant.after_of_after_of_notBefore before (Instant.notBefore_trans clock oneStamp.ended))
  exact iff_of_false differentUid differentTime

end Moment.Agree

theorem ticks_lasting (deployment : Deployment) :
    Lasting deployment fun past _ books =>
      books.supply.Ticks ∧ ∀ moment ∈ past, moment.books.supply.Ticks where
  step := by
    rintro past before after run books ⟨ticks, earlier⟩ -
    refine ⟨(Grows.steady.step deployment run books).becomes.ticks ticks, fun moment isPast => ?_⟩
    rcases List.mem_append.1 isPast with isEarlier | isNow
    · exact earlier moment isEarlier
    · rw [List.mem_singleton.1 isNow]
      exact ticks
  leave ticks _ := ticks
  underWay ticks _ := ticks
  permits ticks _ := ticks
  disturb ticks _ _ := ticks
  call caller request ticks :=
    ⟨(Grows.steady.perform deployment caller request _).becomes.ticks ticks.1, ticks.2⟩

/-- Where the clock ticks, two stored resources are from one collection exactly if they are of one
instant, in any history. -/
theorem collections_agree {deployment : Deployment} {supply : Supply} {events : List Event}
    (ticks : supply.Ticks)
    (lasting : ((Books.fresh supply).after deployment events).supply.minted ≤ 2 ^ 128)
    {group other : String} {one resource : Resource}
    (isOne : one ∈ ((Books.fresh supply).after deployment events).store.resourcesOf group)
    (member : resource ∈ ((Books.fresh supply).after deployment events).store.resourcesOf other) :
    one.collectionUid = resource.collectionUid ↔ one.timestamp = resource.timestamp := by
  have works := (WorksOnce.carried deployment).after (WorksOnce.start supply) lasting
  have clocks := (Grows.steady.keeps (fun _ _ _ => .same_clock rfl rfl rfl rfl) deployment
    (Books.fresh supply) events).pairwise
  have start : (Books.fresh supply).supply.Ticks ∧
      ∀ moment ∈ ([] : List Moment), moment.books.supply.Ticks := ⟨ticks, nofun⟩
  have ticking := ((ticks_lasting deployment).after events start).2
  have pairs : ((Books.fresh supply).moments deployment events).Pairwise
      (Moment.Agree deployment) := by
    refine (works.once.and clocks).imp_of_mem fun _ isSecond both => ?_
    exact Moment.Agree.of_later (ticking _ isSecond) both.1 both.2.clock
  have agree := pairs.forall_of_forall fun moment _ => Moment.Agree.refl moment
  rw [Books.resources_after] at isOne member
  obtain ⟨first, isFirst, stored⟩ := List.mem_flatMap.1 isOne
  obtain ⟨second, isSecond, alsoStored⟩ := List.mem_flatMap.1 member
  exact agree isFirst isSecond group one stored other resource alsoStored

end CloudAudit
