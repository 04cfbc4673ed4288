import CloudAudit.Pipeline
import CloudAudit.Proofs.Collect.Endings
/-!
# What a collection stores

A collection stores one snapshot for each resource of its groups. The snapshot is the resource as
the inventory has it, unless some group record bears the name of the resource: then it is that
record, with the policy of the resource, and it lies under the group of the record.
-/
set_option autoImplicit false

namespace CloudAudit

/-- Whether a resource is as it stands in a record, policy and collection apart. -/
def Resource.Describes (record resource : Resource) : Prop :=
  { record with
    iamPolicy := resource.iamPolicy
    collectionUid := resource.collectionUid
    timestamp := resource.timestamp } = resource

instance (record resource : Resource) : Decidable (record.Describes resource) :=
  inferInstanceAs (Decidable (_ = _))

namespace Collector

/-- A resource as a collection ought to store it. -/
def retagged (collectId : String) (now : Instant) (resource : Resource) : Resource :=
  { resource with collectionUid := some collectId, timestamp := some now }

def groupRecord? (inventory : Inventory) (name : String) : Option Resource :=
  (inventory.resources.filter Resource.isGroup).reverse.find? fun record => record.name == name

/-- No group record of the same name says anything else about a resource. -/
def Unmixed (inventory : Inventory) (resource : Resource) : Prop :=
  ∀ record, groupRecord? inventory resource.name = some record → record.Describes resource

instance (inventory : Inventory) (resource : Resource) :
    Decidable (Unmixed inventory resource) :=
  decidable_of_iff
    ((groupRecord? inventory resource.name).all fun record => decide (record.Describes resource))
    (by simp [Unmixed, Option.all_eq_true])

def knownTo (inventory : Inventory) (collectId : String) : List Resource :=
  (skeletonsOf inventory none).map fun record => { record with collectionUid := some collectId }

theorem knownTo_eq (inventory : Inventory) (collectId : String) :
    knownTo inventory collectId =
      (inventory.resources.filter Resource.isGroup).map fun record =>
        { record with iamPolicy := none, collectionUid := some collectId } := by
  have all : ((inventory.resources.filter Resource.isGroup).filter fun resource =>
      Filter.allows none resource.name) = inventory.resources.filter Resource.isGroup :=
    List.filter_eq_self.2 fun _ _ => rfl
  rw [knownTo, skeletonsOf, all, List.map_map]
  rfl

theorem mem_knownTo {inventory : Inventory} {collectId : String} {skeleton : Resource} :
    skeleton ∈ knownTo inventory collectId ↔
      ∃ record, (record ∈ inventory.resources ∧ record.isGroup = true) ∧
        { record with iamPolicy := none, collectionUid := some collectId } = skeleton := by
  rw [knownTo_eq, List.mem_map]
  simp only [List.mem_filter]

theorem preCollect_reachable {deployment : Deployment}
    (reachable : deployment.collector ≠ .unreachable) (collectId : String) (books : Books) :
    (Pipeline.preCollect deployment collectId).run.run books =
      (.ok (knownTo deployment.inventory collectId), books) := by
  have records : (groupRecords deployment none).run.run books =
      (.ok (skeletonsOf deployment.inventory none), books) := by
    rw [groupRecords]
    split
    · rename_i unreachable
      exact absurd unreachable reachable
    · rfl
  rw [Pipeline.preCollect, Books.bind_run_ok records]
  rfl

theorem preCollect_run {deployment : Deployment} (plain : deployment.collector = .plain)
    (collectId : String) (books : Books) :
    (Pipeline.preCollect deployment collectId).run.run books =
      (.ok (knownTo deployment.inventory collectId), books) :=
  preCollect_reachable (by simp [plain]) collectId books

theorem get?_byName (skeletons : List Resource) (name : String) :
    (byName skeletons).get? name =
      skeletons.reverse.find? fun skeleton => skeleton.name == name := by
  rw [byName, Table.get?_ofList, ← List.map_reverse]
  generalize skeletons.reverse = reversed
  induction reversed with
  | nil => rfl
  | cons skeleton reversed ih =>
    rw [List.map_cons, Table.lookup_entry, ih]
    by_cases same : skeleton.name = name
    · rw [if_pos same.symm, List.find?_cons_of_pos (by simp [same])]
    · rw [if_neg (Ne.symm same), List.find?_cons_of_neg (by simp [same])]

theorem get?_knownTo (inventory : Inventory) (collectId name : String) :
    (byName (knownTo inventory collectId)).get? name =
      (groupRecord? inventory name).map fun record =>
        { record with iamPolicy := none, collectionUid := some collectId } := by
  rw [get?_byName, knownTo_eq, groupRecord?, ← List.map_reverse, List.find?_map]
  rfl

theorem snapshotOf_knownTo (inventory : Inventory) (collectId : String) (now : Instant)
    (resource : Resource) :
    snapshotOf (byName (knownTo inventory collectId)) collectId now resource =
      match groupRecord? inventory resource.name with
      | some record => retagged collectId now { record with iamPolicy := resource.iamPolicy }
      | none => retagged collectId now resource := by
  rw [snapshotOf, get?_knownTo]
  cases groupRecord? inventory resource.name with
  | some record => rfl
  | none => rfl

theorem snapshotOf_name (inventory : Inventory) (collectId : String) (now : Instant)
    (resource : Resource) :
    (snapshotOf (byName (knownTo inventory collectId)) collectId now resource).name =
      resource.name := by
  rw [snapshotOf_knownTo]
  cases found : groupRecord? inventory resource.name with
  | none => rfl
  | some record =>
    have named := List.find?_some found
    exact beq_iff_eq.1 named

theorem snapshotOf_eq_retagged_iff (inventory : Inventory) (collectId : String) (now : Instant)
    (resource : Resource) :
    snapshotOf (byName (knownTo inventory collectId)) collectId now resource =
        retagged collectId now resource ↔
      Unmixed inventory resource := by
  rw [snapshotOf_knownTo, Unmixed]
  cases groupRecord? inventory resource.name with
  | none => simp
  | some record =>
    simp only [Option.some.injEq, forall_eq', retagged, Resource.Describes]
    cases resource
    simp

theorem mem_members {inventory : Inventory} {group : String} {resource : Resource} :
    resource ∈ members inventory group ↔
      resource ∈ inventory.resources ∧ resource.resourceGroupName = group := by
  rw [members, List.mem_filter, beq_iff_eq]

/-- The resources of a group of which no group record of the same name says anything else. -/
def unmixedMembers (inventory : Inventory) (group : String) : List Resource :=
  (members inventory group).filter fun resource => decide (Unmixed inventory resource)

theorem unmixedMembers_eq {inventory : Inventory} {group : String}
    (unmixed : ∀ resource ∈ members inventory group, Unmixed inventory resource) :
    unmixedMembers inventory group = members inventory group :=
  List.filter_eq_self.2 fun resource member => decide_eq_true (unmixed resource member)

def snapshots (inventory : Inventory) (collectId : String) (now : Instant)
    (groups : List String) : List Resource :=
  groups.flatMap fun group =>
    (members inventory group).map (snapshotOf (byName (knownTo inventory collectId)) collectId now)

/-! ## What collectors do -/

/-- The books on which a collector takes its snapshots, if it comes to that. -/
def begun (deployment : Deployment) (books : Books) : Option Books :=
  match deployment.collector with
  | .plain | .observing => some books
  | .unreachable | .failingSnapshot => none
  | .gated => some { books with permits := books.permits - 1 }

theorem begun_same {deployment : Deployment} {books start : Books}
    (begins : begun deployment books = some start) :
    start.store = books.store ∧ start.fails = books.fails ∧ start.supply = books.supply := by
  unfold begun at begins
  split at begins <;> cases begins <;> exact ⟨rfl, rfl, rfl⟩

theorem exists_begun {deployment : Deployment} (reachable : deployment.collector ≠ .unreachable)
    (collects : deployment.collector ≠ .failingSnapshot) (books : Books) :
    ∃ start, begun deployment books = some start := by
  unfold begun
  cases kind : deployment.collector with
  | plain | observing | gated => exact ⟨_, rfl⟩
  | unreachable => exact absurd kind reachable
  | failingSnapshot => exact absurd kind collects

/-- Once the snapshots are kept, collecting only adds observations, and reads no clock. -/
theorem collect_begun (deployment : Deployment) (collectId : String) (groups : List String)
    (skeletons : List Resource) (books : Books) :
    match begun deployment books with
    | some start => (∃ added,
        ((collect deployment collectId groups skeletons).run.run books).2.store =
          ((keepSnapshots deployment collectId groups skeletons).run.run
            start).2.store.addObservations added) ∧
      ((collect deployment collectId groups skeletons).run.run books).2.supply =
        ((keepSnapshots deployment collectId groups skeletons).run.run start).2.supply
    | none => ((collect deployment collectId groups skeletons).run.run books).2 = books := by
  rw [collect, begun]
  cases deployment.collector with
  | plain => exact ⟨⟨[], rfl⟩, rfl⟩
  | unreachable | failingSnapshot => rfl
  | observing =>
    simp only
    cases ran : (keepSnapshots deployment collectId groups skeletons).run.run books with
    | mk answer kept =>
      cases answer with
      | error error =>
        rw [Books.bind_run_error ran]
        exact ⟨⟨[], rfl⟩, rfl⟩
      | ok _ =>
        rw [Books.bind_run_ok ran, ExceptT.run_bind, StateT.run_bind, Books.addObservations_run]
        split
        · exact ⟨⟨[], rfl⟩, rfl⟩
        · exact ⟨⟨_, rfl⟩, rfl⟩
  | gated =>
    have used : (liftM usePermit : Act Unit).run.run books =
        (.ok (), { books with permits := books.permits - 1 }) := rfl
    simp only
    rw [Books.bind_run_ok used]
    exact ⟨⟨[], rfl⟩, rfl⟩

section

variable {deployment : Deployment} {books : Books} (reliable : books.Reliable) (collectId : String)
  {groups : List String}
  (populated : ∀ group ∈ groups, members deployment.inventory group ≠ [])
include reliable populated

theorem keepSnapshots_run :
    ∃ after, ∃ clock : Clock,
      (keepSnapshots deployment collectId groups
        (knownTo deployment.inventory collectId)).run.run books = (.ok (), after) ∧
      after.store =
        ((books.store.log (Books.stamped collectId .collect .started books.supply.toClock groups)
          ).addResources (snapshots deployment.inventory collectId clock.now groups)).log
            (Books.stamped collectId .collect .completed clock groups) := by
  obtain ⟨answer, after, ran, ending⟩ := keepSnapshots_ending deployment collectId groups
    (knownTo deployment.inventory collectId) books
  obtain ⟨rfl, clock, stored⟩ := ending.of_reliable reliable populated
  exact ⟨after, clock, ran, stored⟩

/-- Whichever way a collector works, the snapshots of the groups come to the store. -/
theorem collect_resources (reachable : deployment.collector ≠ .unreachable)
    (collects : deployment.collector ≠ .failingSnapshot) :
    ∃ now, ∀ group,
      ((collect deployment collectId groups
        (knownTo deployment.inventory collectId)).run.run books).2.store.resourcesOf group =
      books.store.resourcesOf group ++
        (snapshots deployment.inventory collectId now groups).filter
          fun snapshot => snapshot.resourceGroupName == group := by
  obtain ⟨start, begins⟩ := exists_begun reachable collects books
  obtain ⟨sameStore, sameFails, -⟩ := begun_same begins
  obtain ⟨after, clock, ran, stored⟩ :=
    keepSnapshots_run (reliable.of_fails sameFails) collectId populated
  have collected :=
    collect_begun deployment collectId groups (knownTo deployment.inventory collectId) books
  rw [begins] at collected
  obtain ⟨⟨found, reported⟩, -⟩ := collected
  refine ⟨clock.now, fun group => ?_⟩
  rw [reported, ran, stored, ← sameStore]
  exact Store.resourcesOf_addResources _ _ group

end

theorem collect_run {deployment : Deployment} {books : Books}
    (plain : deployment.collector = .plain) (reliable : books.Reliable) (collectId : String)
    {groups : List String}
    (populated : ∀ group ∈ groups, members deployment.inventory group ≠ []) :
    ∃ after, ∃ clock : Clock,
      (collect deployment collectId groups (knownTo deployment.inventory collectId)).run.run books =
        (.ok (), after) ∧
      after.store =
        ((books.store.log (Books.stamped collectId .collect .started books.supply.toClock groups)
          ).addResources (snapshots deployment.inventory collectId clock.now groups)).log
            (Books.stamped collectId .collect .completed clock groups) := by
  rw [collect, plain]
  exact keepSnapshots_run reliable collectId populated

theorem collectionUid_of_mem_snapshots {inventory : Inventory} {collectId : String} {now : Instant}
    {groups : List String} {snapshot : Resource}
    (member : snapshot ∈ snapshots inventory collectId now groups) :
    snapshot.collectionUid = some collectId := by
  obtain ⟨group, -, inGroup⟩ := List.mem_flatMap.1 member
  obtain ⟨resource, -, rfl⟩ := List.mem_map.1 inGroup
  rfl

/-- Where the snapshots of each group are the resources as they are, they lie where they belong. -/
theorem snapshots_of_unmixed {inventory : Inventory} (collectId : String) (now : Instant)
    {groups : List String} (distinct : groups.Nodup)
    (unmixed : ∀ group ∈ groups, ∀ resource ∈ members inventory group,
      Unmixed inventory resource) (group : String) :
    ((snapshots inventory collectId now groups).filter
        fun snapshot => snapshot.resourceGroupName == group) =
      if group ∈ groups then (members inventory group).map (retagged collectId now) else [] := by
  have faithful : ∀ group ∈ groups,
      (members inventory group).map
          (snapshotOf (byName (knownTo inventory collectId)) collectId now) =
        (members inventory group).map (retagged collectId now) := by
    intro group covered
    apply List.map_congr_left
    intro resource member
    exact (snapshotOf_eq_retagged_iff _ _ _ _).2 (unmixed group covered resource member)
  have own : ∀ group ∈ groups,
      ∀ snapshot ∈ (members inventory group).map
          (snapshotOf (byName (knownTo inventory collectId)) collectId now),
        snapshot.resourceGroupName = group := by
    intro group covered snapshot isSnapshot
    rw [faithful group covered] at isSnapshot
    obtain ⟨resource, member, rfl⟩ := List.mem_map.1 isSnapshot
    exact (mem_members.1 member).2
  rw [snapshots, Store.filter_flatMap_own Resource.resourceGroupName distinct own]
  split
  · rename_i covered
    exact faithful group covered
  · rfl

/-- Where the snapshots lie where they belong, they are the resources as they are: a snapshot lies
under the group of the record that it was made of, so a resource found again under its group was
not taken for a record of another one. -/
theorem unmixed_of_snapshots {inventory : Inventory} {collectId : String} {now : Instant}
    {groups : List String} (distinct : groups.Nodup)
    (faithful : ∀ group, ((snapshots inventory collectId now groups).filter
        fun snapshot => snapshot.resourceGroupName == group) =
      if group ∈ groups then (members inventory group).map (retagged collectId now) else []) :
    ∀ group ∈ groups, ∀ resource ∈ members inventory group, Unmixed inventory resource := by
  have own : ∀ group ∈ groups,
      ∀ snapshot ∈ (members inventory group).map
          (snapshotOf (byName (knownTo inventory collectId)) collectId now),
        snapshot.resourceGroupName = group := by
    intro group covered snapshot isSnapshot
    obtain ⟨resource, member, rfl⟩ := List.mem_map.1 isSnapshot
    have found : retagged collectId now resource ∈
        (snapshots inventory collectId now groups).filter
          fun snapshot => snapshot.resourceGroupName == group := by
      rw [faithful group, if_pos covered]
      exact List.mem_map_of_mem member
    obtain ⟨stored, atGroup⟩ := List.mem_filter.1 found
    obtain ⟨other, -, inOther⟩ := List.mem_flatMap.1 stored
    obtain ⟨namesake, -, same⟩ := List.mem_map.1 inOther
    have name : namesake.name = resource.name := by
      rw [← snapshotOf_name inventory collectId now, same]
      rfl
    rw [← same] at atGroup
    rw [snapshotOf_knownTo] at atGroup ⊢
    rw [name] at atGroup
    cases record : groupRecord? inventory resource.name with
    | none => exact (mem_members.1 member).2
    | some record =>
      rw [record] at atGroup
      exact beq_iff_eq.1 atGroup
  intro group covered resource member
  have block := faithful group
  rw [snapshots, Store.filter_flatMap_own Resource.resourceGroupName distinct own, if_pos covered,
    if_pos covered] at block
  exact (snapshotOf_eq_retagged_iff _ _ _ _).1 (List.map_inj_left.1 block resource member)

/-- A collection whose identifier is new stores the resources of its groups as the inventory has
them, one for one, exactly if no group record bears the name of one of them and differs from it. -/
theorem collect_faithful_iff {deployment : Deployment} {books : Books} {collectId : String}
    {groups : List String} (plain : deployment.collector = .plain) (reliable : books.Reliable)
    (unused : books.store.Unused collectId) (distinct : groups.Nodup)
    (populated : ∀ group ∈ groups, members deployment.inventory group ≠ []) :
    ∃ skeletons after now,
      (Pipeline.preCollect deployment collectId).run.run books = (.ok skeletons, books) ∧
      (collect deployment collectId groups skeletons).run.run books = (.ok (), after) ∧
      (∀ group, after.store.taggedIn collectId group =
        (snapshots deployment.inventory collectId now groups).filter
          fun snapshot => snapshot.resourceGroupName == group) ∧
      ((∀ group, after.store.taggedIn collectId group =
          if group ∈ groups then
            (members deployment.inventory group).map (retagged collectId now)
          else []) ↔
        ∀ group ∈ groups, ∀ resource ∈ members deployment.inventory group,
          Unmixed deployment.inventory resource) := by
  obtain ⟨after, clock, ran, stored⟩ := collect_run plain reliable collectId populated
  have tagged : ∀ group, after.store.taggedIn collectId group =
      (snapshots deployment.inventory collectId clock.now groups).filter
        fun snapshot => snapshot.resourceGroupName == group := by
    intro group
    rw [stored]
    have unusedStill : (books.store.log (Books.stamped collectId .collect .started
        books.supply.toClock groups)).Unused collectId := unused
    exact unusedStill.taggedIn_addResources (fun _ => collectionUid_of_mem_snapshots) group
  refine ⟨_, after, clock.now, preCollect_run plain collectId books, ran, tagged, ?_⟩
  simp only [tagged]
  constructor
  · exact unmixed_of_snapshots distinct
  · intro unmixed group
    exact snapshots_of_unmixed collectId clock.now distinct unmixed group

/-! ## A bucket with the name of a group -/

namespace Namesake

def deployment : Deployment where
  inventory :=
    ⟨[Resource.group "g1", Resource.group "g2", Resource.member "g2" "g1" .bucket]⟩
  contacts := default
  notificationInterval := .zero
  sourceSystem := "CloudAudit"

def books : Books := { supply := { now := ⟨0, 0⟩ } }

theorem plain : deployment.collector = .plain := rfl

theorem reliable : books.Reliable := fun _ _ => rfl

theorem unused : books.store.Unused "c" := by
  intro group resource member
  cases member

theorem second_group_faithful :
    ∃ skeletons after now,
      (Pipeline.preCollect deployment "c").run.run books = (.ok skeletons, books) ∧
      (collect deployment "c" ["g2"] skeletons).run.run books = (.ok (), after) ∧
      ∀ group, after.store.taggedIn "c" group =
        if group ∈ ["g2"] then (members deployment.inventory group).map (retagged "c" now)
        else [] := by
  have found : ∀ group ∈ ["g2"], members deployment.inventory group ≠ [] := by
    decide +kernel
  obtain ⟨skeletons, after, now, known, ran, -, exact_iff⟩ :=
    collect_faithful_iff plain reliable unused (by decide) found
  exact ⟨skeletons, after, now, known, ran, exact_iff.2 (by decide +kernel)⟩

end Namesake

/-- The bucket of the first group is stored as the record of the second group, and under it. -/
theorem bucket_stored_as_group :
    ¬ ∀ (deployment : Deployment) (books after : Books) (collectId : String)
        (groups : List String) (skeletons : List Resource),
      deployment.collector = .plain → books.Reliable → books.store.Unused collectId →
      groups.Nodup → (∀ group ∈ groups, members deployment.inventory group ≠ []) →
      (Pipeline.preCollect deployment collectId).run.run books = (.ok skeletons, books) →
      (collect deployment collectId groups skeletons).run.run books = (.ok (), after) →
      ∃ now, ∀ group, after.store.taggedIn collectId group =
        if group ∈ groups then (members deployment.inventory group).map (retagged collectId now)
        else [] := by
  intro faithful
  have found : ∀ group ∈ ["g1"], members Namesake.deployment.inventory group ≠ [] := by
    decide +kernel
  obtain ⟨after, -, ran, -⟩ := collect_run Namesake.plain Namesake.reliable "c" found
  obtain ⟨_, same⟩ := faithful Namesake.deployment Namesake.books after "c" ["g1"] _
    Namesake.plain Namesake.reliable Namesake.unused (by decide) found
    (preCollect_run Namesake.plain "c" _) ran
  have result : ((collect Namesake.deployment "c" ["g1"]
      (knownTo Namesake.deployment.inventory "c")).run.run Namesake.books).2 = after := by
    rw [ran]
  have elsewhere : after.store.taggedIn "c" "g2" = [] := same "g2"
  rw [← result] at elsewhere
  exact absurd elsewhere (by decide +kernel)

end Collector

end CloudAudit
