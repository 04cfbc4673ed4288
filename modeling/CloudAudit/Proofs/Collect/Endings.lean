import CloudAudit.Collector
import CloudAudit.Proofs.Store.Keeping
import CloudAudit.Proofs.World.Actions
/-!
# How a collection ends

A collection logs that it starts, makes its snapshots, stores them in one call and logs that it is
complete. Each of these steps may fail, and then nothing after it happens. So the store has all
snapshots of a collection or none, and only what it has is called complete.
-/
set_option autoImplicit false

namespace CloudAudit

namespace Collector

/-! ## What snapshots are made -/

def allSnapshots (inventory : Inventory) (known : Table Resource) (collectId : String)
    (now : Instant) (groups : List String) : List Resource :=
  groups.flatMap fun group => (members inventory group).map (snapshotOf known collectId now)

theorem batch_eq (inventory : Inventory) (known : Table Resource) (collectId : String)
    (now : Instant) {groups : List String}
    (populated : ∀ group ∈ groups, members inventory group ≠ []) :
    batch inventory known collectId now groups =
      .ok (allSnapshots inventory known collectId now groups) := by
  induction groups with
  | nil => rfl
  | cons group groups ih =>
    obtain ⟨first, rest⟩ := List.forall_mem_cons.1 populated
    rw [batch, ih rest]
    split
    · rename_i nobody
      exact absurd nobody first
    · rfl

def missing (group : String) : AuditError :=
  .collector ("resource group " ++ group ++ " not found in inventory")

theorem batch_missing {inventory : Inventory} {known : Table Resource} {collectId : String}
    {now : Instant} {groups : List String} {group : String}
    (first : groups.find? (fun requested => (members inventory requested).isEmpty) = some group) :
    batch inventory known collectId now groups = .error (missing group) := by
  induction groups with
  | nil => cases first
  | cons requested groups ih =>
    rw [batch]
    cases found : members inventory requested with
    | nil =>
      rw [List.find?_cons_of_pos (by simp [found])] at first
      obtain rfl := Option.some.inj first
      rfl
    | cons resource more =>
      rw [List.find?_cons_of_neg (by simp [found])] at first
      simp only [ih first]
      rfl

theorem find_lacking_eq_none_iff {inventory : Inventory} {groups : List String} :
    groups.find? (fun requested => (members inventory requested).isEmpty) = none ↔
      ∀ group ∈ groups, members inventory group ≠ [] := by
  simp [List.find?_eq_none]

theorem batch_eq_ok_iff {inventory : Inventory} {known : Table Resource} {collectId : String}
    {now : Instant} {groups : List String} {found : List Resource} :
    batch inventory known collectId now groups = .ok found ↔
      (∀ group ∈ groups, members inventory group ≠ []) ∧
        found = allSnapshots inventory known collectId now groups := by
  constructor
  · intro made
    cases lacks : groups.find? fun group => (members inventory group).isEmpty with
    | some group =>
      rw [batch_missing lacks] at made
      cases made
    | none =>
      have populated := find_lacking_eq_none_iff.1 lacks
      exact ⟨populated, Except.ok.inj (made.symm.trans (batch_eq _ _ _ _ populated))⟩
  · rintro ⟨populated, rfl⟩
    exact batch_eq _ _ _ _ populated

/-! ## What keeping them comes to -/

/-- The ways in which keeping the snapshots of groups ends, with the answer and the store. -/
inductive Ending (inventory : Inventory) (collectId : String) (groups : List String)
    (skeletons : List Resource) (before : Books) : Except AuditError Unit → Store → Prop
  | unlogged {count : Nat} (fails : before.fails count .addOperationLog = true) :
    Ending inventory collectId groups skeletons before
      (.error (Books.failure .addOperationLog)) before.store
  | lacking {group : String}
      (first : groups.find? (fun requested => (members inventory requested).isEmpty) =
        some group) :
    Ending inventory collectId groups skeletons before (.error (missing group))
      (before.store.log (Books.stamped collectId .collect .started before.supply.toClock groups))
  | unstored {count : Nat} (fails : before.fails count .batchCreateResources = true)
      (populated : ∀ group ∈ groups, members inventory group ≠ []) :
    Ending inventory collectId groups skeletons before
      (.error (Books.failure .batchCreateResources))
      (before.store.log (Books.stamped collectId .collect .started before.supply.toClock groups))
  | unfinished {count : Nat} (fails : before.fails count .addOperationLog = true) (now : Instant)
      (populated : ∀ group ∈ groups, members inventory group ≠ []) :
    Ending inventory collectId groups skeletons before
      (.error (Books.failure .addOperationLog))
      ((before.store.log (Books.stamped collectId .collect .started before.supply.toClock groups)
        ).addResources (allSnapshots inventory (byName skeletons) collectId now groups))
  | complete (clock : Clock) (populated : ∀ group ∈ groups, members inventory group ≠ []) :
    Ending inventory collectId groups skeletons before (.ok ())
      (((before.store.log (Books.stamped collectId .collect .started before.supply.toClock groups)
        ).addResources (allSnapshots inventory (byName skeletons) collectId clock.now groups)).log
          (Books.stamped collectId .collect .completed clock groups))

theorem keepSnapshots_ending (deployment : Deployment) (collectId : String) (groups : List String)
    (skeletons : List Resource) (books : Books) :
    ∃ answer after,
      (keepSnapshots deployment collectId groups skeletons).run.run books = (answer, after) ∧
        Ending deployment.inventory collectId groups skeletons books answer after.store := by
  let started := books.logged collectId groups .collect .started
  have starts := books.logGroups_logged collectId groups .collect .started
  rw [keepSnapshots]
  split at starts
  · rename_i fails
    rw [Books.bind_run_error starts]
    exact ⟨_, _, rfl, .unlogged fails⟩
  rw [Books.bind_run_ok starts, Books.bind_run_ok started.readClock_run]
  cases lacks : groups.find? fun group => (members deployment.inventory group).isEmpty with
  | some group =>
    rw [batch_missing lacks, Books.bind_run_error ((started.ticked 1).settled_run _)]
    exact ⟨_, _, rfl, .lacking lacks⟩
  | none =>
    have populated := find_lacking_eq_none_iff.1 lacks
    let found := allSnapshots deployment.inventory (byName skeletons) collectId
      started.supply.reading groups
    have made := batch_eq deployment.inventory (byName skeletons) collectId
      started.supply.reading populated
    have keeps := (started.ticked 1).addResources_run found
    rw [made, Books.bind_run_ok ((started.ticked 1).settled_run _)]
    split at keeps
    · rename_i fails
      rw [Books.bind_run_error keeps]
      exact ⟨_, _, rfl, .unstored fails populated⟩
    let kept : Books :=
      { (started.ticked 1).counted with store := started.store.addResources found }
    rw [Books.bind_run_ok keeps]
    change ∃ answer after,
      (Books.logGroups collectId groups .collect .completed).run.run kept = (answer, after) ∧ _
    rw [Books.logGroups_logged]
    split
    · rename_i fails
      have unlogged : books.fails kept.storeCalls .addOperationLog = true := fails
      exact ⟨_, _, rfl, .unfinished unlogged started.supply.reading populated⟩
    · exact ⟨_, _, rfl, .complete started.supply.turned populated⟩

/-- Whether a store has come to hold the snapshots of all resources of groups, each of which has
resources. -/
structure Extended (inventory : Inventory) (known : Table Resource) (collectId : String)
    (groups : List String) (before after : Store) : Prop where
  populated : ∀ group ∈ groups, members inventory group ≠ []
  stored : ∃ now, ∀ group, after.resourcesOf group = before.resourcesOf group ++
    (allSnapshots inventory known collectId now groups).filter fun snapshot =>
      snapshot.resourceGroupName == group

namespace Ending

variable {inventory : Inventory} {collectId : String} {groups : List String}
  {skeletons : List Resource} {before : Books} {answer : Except AuditError Unit} {after : Store}
  (ending : Ending inventory collectId groups skeletons before answer after)
include ending

theorem of_reliable (reliable : before.Reliable)
    (populated : ∀ group ∈ groups, members inventory group ≠ []) :
    answer = .ok () ∧ ∃ clock : Clock, after =
      ((before.store.log (Books.stamped collectId .collect .started before.supply.toClock groups)
        ).addResources (allSnapshots inventory (byName skeletons) collectId clock.now groups)).log
          (Books.stamped collectId .collect .completed clock groups) := by
  cases ending with
  | unlogged fails | unstored fails | unfinished fails =>
    rw [reliable] at fails
    cases fails
  | lacking first =>
    rw [find_lacking_eq_none_iff.2 populated] at first
    cases first
  | complete clock => exact ⟨rfl, clock, rfl⟩

/-- The resources are as before, and then the collection failed, or all snapshots have come. -/
theorem nothing_or_extended :
    (after.resources = before.store.resources ∧ ∃ error, answer = .error error) ∨
      Extended inventory (byName skeletons) collectId groups before.store after := by
  cases ending with
  | unlogged | lacking | unstored => exact .inl ⟨rfl, _, rfl⟩
  | unfinished _ _ populated | complete _ populated =>
    exact .inr ⟨populated, _, fun group =>
      Store.resourcesOf_addResources (before.store.log _) _ group⟩

/-- All that is added to the log waits there for a flush. Where some of it says that something is
complete, all snapshots have come. -/
theorem exists_added :
    after.operations = before.store.operations ∧
      ∃ added, after.pending = before.store.pending ++ added ∧
        ((∃ entry ∈ added, entry.status = .completed) →
          Extended inventory (byName skeletons) collectId groups before.store after) := by
  have started : ¬ ∃ entry ∈ Books.stamped collectId .collect .started before.supply.toClock groups,
      entry.status = .completed := by
    rintro ⟨entry, member, completed⟩
    have other := congrArg Operation.status (Books.eq_of_mem_stamped member).1
    rw [completed] at other
    cases other
  cases ending with
  | unlogged => exact ⟨rfl, [], (List.append_nil _).symm, by simp⟩
  | lacking | unstored => exact ⟨rfl, _, rfl, fun completed => absurd completed started⟩
  | unfinished => exact ⟨rfl, _, rfl, fun completed => absurd completed started⟩
  | complete clock populated =>
    refine ⟨rfl, _, List.append_assoc _ _ _, fun _ => ⟨populated, clock.now, fun group => ?_⟩⟩
    exact Store.resourcesOf_addResources (before.store.log _) _ group

end Ending

/-! ## All or nothing -/

/-- Whatever fails, a collection leaves the stored resources as they were or adds the snapshots of
all resources of all its groups. It succeeds in the second case only, and always if no call fails
and every group has resources; a group without resources makes it fail and store nothing; and it
logs that something is complete only if all snapshots are stored. -/
theorem collection_all_or_nothing (deployment : Deployment) (collectId : String)
    (groups : List String) (skeletons : List Resource) (books : Books) :
    ∃ answer after,
      (keepSnapshots deployment collectId groups skeletons).run.run books = (answer, after) ∧
      (after.store.resources = books.store.resources ∨
        Extended deployment.inventory (byName skeletons) collectId groups books.store
          after.store) ∧
      (answer = .ok () →
        Extended deployment.inventory (byName skeletons) collectId groups books.store
          after.store) ∧
      (books.Reliable → (∀ group ∈ groups, members deployment.inventory group ≠ []) →
        answer = .ok ()) ∧
      ((∃ group ∈ groups, members deployment.inventory group = []) →
        (∃ error, answer = .error error) ∧ after.store.resources = books.store.resources) ∧
      after.store.operations = books.store.operations ∧
      ∃ added, after.store.pending = books.store.pending ++ added ∧
        ((∃ entry ∈ added, entry.status = .completed) →
          Extended deployment.inventory (byName skeletons) collectId groups books.store
            after.store) := by
  obtain ⟨answer, after, ran, ending⟩ :=
    keepSnapshots_ending deployment collectId groups skeletons books
  obtain ⟨flushed, added⟩ := ending.exists_added
  refine ⟨answer, after, ran, ending.nothing_or_extended.imp_left And.left, ?_,
    fun reliable populated => (ending.of_reliable reliable populated).1, ?_, flushed, added⟩
  · rintro rfl
    rcases ending.nothing_or_extended with ⟨-, error, failed⟩ | extended
    · cases failed
    · exact extended
  · rintro ⟨group, member, nobody⟩
    rcases ending.nothing_or_extended with ⟨same, failed⟩ | extended
    · exact ⟨failed, same⟩
    · exact absurd nobody (extended.populated group member)

/-! A group that the inventory has, and one that it does not have. -/
namespace Halfway

def deployment : Deployment where
  inventory := ⟨[Resource.group "g1"]⟩
  contacts := default
  notificationInterval := .zero
  sourceSystem := "CloudAudit"

def books : Books := { supply := { now := ⟨0, 0⟩ } }

theorem known_group_not_stored :
    (∃ group ∈ ["g1", "g2"], members deployment.inventory group = []) ∧
      (∃ answer after,
        (keepSnapshots deployment "c" ["g1", "g2"] []).run.run books = (answer, after) ∧
        (∃ error, answer = .error error) ∧ after.store.resources = books.store.resources) ∧
      books.Reliable ∧ (∀ group ∈ ["g1"], members deployment.inventory group ≠ []) ∧
      ∃ after, (keepSnapshots deployment "c" ["g1"] []).run.run books = (.ok (), after) ∧
        Extended deployment.inventory (byName []) "c" ["g1"] books.store after.store := by
  have unknown : ∃ group ∈ ["g1", "g2"], members deployment.inventory group = [] :=
    ⟨"g2", by decide, by decide⟩
  have reliable : books.Reliable := fun _ _ => rfl
  have populated : ∀ group ∈ ["g1"], members deployment.inventory group ≠ [] := by decide
  obtain ⟨answer, after, ran, -, -, -, fails, -⟩ :=
    collection_all_or_nothing deployment "c" ["g1", "g2"] [] books
  obtain ⟨alone, afterAlone, ranAlone, -, stores, succeeds, -⟩ :=
    collection_all_or_nothing deployment "c" ["g1"] [] books
  obtain rfl := succeeds reliable populated
  exact ⟨unknown, ⟨answer, after, ran, fails unknown⟩, reliable, populated, afterAlone, ranAlone,
    stores rfl⟩

end Halfway

end Collector

end CloudAudit
