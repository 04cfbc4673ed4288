import CloudAudit.Proofs.Listing.Reports
import CloudAudit.Proofs.Runs.Access
/-!
# The shape of a listing

A listing has one entry for each group, and in it one for each known rule and each other name that
was observed in the group, both in ascending order. In these entries stand all the observations that
are kept, none of them twice, and each of them in its own place.
-/
set_option autoImplicit false

namespace CloudAudit

def allListed (listing : List GroupObservations) : List Observation :=
  listing.flatMap fun entry => entry.rulesObservations.flatMap RuleObservations.observations

theorem count_allListed (listing : List GroupObservations) (observation : Observation) :
    (allListed listing).count observation = (placesOf listing observation).length := by
  simp only [allListed, placesOf, List.count_flatMap, List.length_flatMap, Function.comp_def,
    List.length_replicate]

/-- How the kept observations of some groups stand in a listing. -/
structure Canonical (rules : List Rule) (groups : List String) (store : Store)
    (kept : List Observation) (listing : List GroupObservations) : Prop where
  /-- The groups are in ascending order, so no group has two entries. -/
  ascending : listing.Pairwise fun first second =>
    first.resourceGroupName < second.resourceGroupName
  /-- Each of the groups has an entry, and no other group has one. -/
  covers : ∀ group, Covers listing group ↔ group ∈ groups
  /-- Under each group the names are in ascending order, so no name stands twice. -/
  namesAscending : ∀ entry ∈ listing,
    entry.rulesObservations.Pairwise fun first second => first.rule < second.rule
  /-- Under each group stand the known rules and the names of its kept observations. -/
  names : ∀ entry ∈ listing, ∀ name,
    (∃ rule ∈ entry.rulesObservations, rule.rule = name) ↔
      name ∈ rules.map Rule.name ∨
        ∃ found ∈ kept, found.groupName = entry.resourceGroupName ∧ found.name = name
  /-- Under a name stand the kept observations of that group and that name. -/
  own : ∀ entry ∈ listing, ∀ rule ∈ entry.rulesObservations,
    rule.observations = kept.filter fun found =>
      found.groupName == entry.resourceGroupName && found.name == rule.rule
  /-- They stand in the order in which they are stored. -/
  stored : ∀ entry ∈ listing, ∀ rule ∈ entry.rulesObservations,
    rule.observations.Sublist (store.stored entry.resourceGroupName)
  /-- All in all nothing that is kept is missing, and nothing is there more often. -/
  complete : (allListed listing).Perm kept

namespace Service

theorem allListed_grouped (rules : List Rule) (groups : List String)
    (observations : List Observation) :
    (allListed (entries (grouped rules groups observations))).Perm observations := by
  rw [List.perm_iff_count]
  intro observation
  rw [count_allListed, placesOf_grouped, List.length_replicate]

theorem names_entry {rules : List Rule} {groups : List String} {observations : List Observation}
    {entry : GroupObservations}
    (isEntry : entry ∈ entries (grouped rules groups observations))
    (covered : entry.resourceGroupName ∈ groups) (name : String) :
    (∃ rule ∈ entry.rulesObservations, rule.rule = name) ↔
      name ∈ rules.map Rule.name ∨
        ∃ found ∈ observations, found.groupName = entry.resourceGroupName ∧ found.name = name := by
  have under := mem_namesUnder_grouped rules groups observations entry.resourceGroupName name
  simp only [covered, true_and] at under
  rw [← under]
  rw [entries_eq] at isEntry
  obtain ⟨group, -, rfl⟩ := List.mem_map.1 isEntry
  simp

theorem ascending_entries (table : Table ByRule) :
    (entries table).Pairwise fun first second =>
      first.resourceGroupName < second.resourceGroupName :=
  List.pairwise_map.2 table.ascending

theorem namesAscending_entries {table : Table ByRule} {entry : GroupObservations}
    (isEntry : entry ∈ entries table) :
    entry.rulesObservations.Pairwise fun first second => first.rule < second.rule := by
  obtain ⟨⟨group, byRule⟩, -, rfl⟩ := List.mem_map.1 isEntry
  exact List.pairwise_map.2 byRule.ascending

/-! ## Stored observations -/

section

variable {store : Store} (placed : store.Placed) {groups : List String} {window : Window}
include placed

theorem groupName_of_kept {found : Observation} (kept : found ∈ keptIn groups store window) :
    found.groupName ∈ groups := by
  obtain ⟨group, covered, seen⟩ := List.mem_flatMap.1 (mem_latestScanOnly.1 kept).1
  rw [placed group found (List.mem_filter.1 seen).1]
  exact covered

theorem sublist_stored_of_kept (once : groups.Nodup) (group : String) :
    ((keptIn groups store window).filter fun found => found.groupName == group).Sublist
      (store.stored group) := by
  have own : ∀ group ∈ groups, ∀ found ∈ store.seenIn window group, found.groupName = group :=
    fun group _ found seen => placed group found (List.mem_filter.1 seen).1
  have selected := Store.filter_flatMap_own Observation.groupName once own group
  have kept : (keptIn groups store window).Sublist (groups.flatMap (store.seenIn window)) :=
    List.filter_sublist
  refine (kept.filter _).trans ?_
  rw [selected]
  split
  · exact List.filter_sublist
  · exact List.nil_sublist _

theorem canonical_answerIn (rules : List Rule) (once : groups.Nodup) :
    Canonical rules groups store (keptIn groups store window)
      (answerIn rules groups store window) where
  ascending := ascending_entries _
  covers := by
    intro group
    rw [answerIn, covers_grouped_iff]
    refine ⟨?_, .inl⟩
    rintro (covered | ⟨found, kept, rfl⟩)
    · exact covered
    · exact groupName_of_kept placed kept
  namesAscending _ isEntry := namesAscending_entries isEntry
  names := by
    intro entry isEntry
    have covered : Covers (answerIn rules groups store window) entry.resourceGroupName :=
      ⟨entry, isEntry, rfl⟩
    rw [answerIn, covers_grouped_iff] at covered
    refine names_entry isEntry (covered.elim id ?_)
    rintro ⟨found, kept, same⟩
    rw [← same]
    exact groupName_of_kept placed kept
  own _ isEntry _ isRule := observations_entry isEntry isRule
  stored := by
    intro entry isEntry rule isRule
    rw [observations_entry isEntry isRule]
    refine (List.monotone_filter_right _ ?_).trans
      (sublist_stored_of_kept placed once entry.resourceGroupName)
    intro found named
    rw [Bool.and_eq_true] at named
    exact named.1
  complete := allListed_grouped rules groups _

end

/-- A listing of owned groups, none of which is named twice, has the shape of the kept observations,
whatever was put into the store and in whichever order. -/
theorem listings_are_canonical {deployment : Deployment} {owned requested : List String}
    {books : Books} {changes : List StoreChange} (reached : books.store = .ofChanges changes)
    (owns : Owns deployment owned) (asked : ∀ group ∈ requested, group ∈ owned)
    (once : requested.Nodup) (supported : books.supply.reading.inCalendar = true)
    (started : (Window.weekTo books.supply.reading).start.inCalendar = true)
    (observes : (books.ticked 1).failsAt .listObservations = false)
    (operates : (books.ticked 1).counted.failsAt .listOperations = false) :
    ∃ groups listing after,
      (listObservations deployment requested).run.run books = (.ok listing, after) ∧
        groups = (if requested = [] then owned else requested) ∧
        Canonical deployment.rules groups books.store
          (keptIn groups books.store (Window.weekTo books.supply.reading)) listing := by
  have placed : books.store.Placed := by
    rw [reached]
    exact Store.placed_ofChanges changes
  have valid := owns.validateGroups_run requested books
  rw [permitted_of_owned asked] at valid
  have distinct := validateGroups_nodup once valid
  refine ⟨_, _, (books.ticked 1).counted.counted, ?_, rfl,
    canonical_answerIn placed deployment.rules distinct⟩
  rw [listObservations_run valid, Books.map_run, visit_run supported started observes operates]
  rfl

namespace Mixed

/-- Two owned groups and one known rule. -/
def deployment : Deployment where
  inventory := ⟨[]⟩
  rules := [.publicBucket]
  access := .owned ["a", "b"]
  contacts := default
  notificationInterval := .zero
  sourceSystem := "CloudAudit"

def found (group name : String) (scanId : Option String) (time : Instant) : Observation where
  name := name
  resourceRef := { name := group, resourceGroupName := group }
  scanId := scanId
  timestamp := some time
  remediation := ⟨"d", "r"⟩

/-- Findings of both groups, one of them of a rule that is not known, one of an earlier scan. -/
def changes : List StoreChange :=
  [.addObservations
      [found "b" "EXTERNAL" none ⟨1, 0⟩, found "a" "BUCKET_IS_PUBLIC" (some "old") ⟨2, 0⟩,
        found "a" "BUCKET_IS_PUBLIC" (some "new") ⟨3, 0⟩],
    .log [⟨"new", "a", .scan, ⟨4, 0⟩, .completed⟩], .flush]

def books : Books where
  store := .ofChanges changes
  supply := { now := ⟨5, 0⟩ }

theorem listing_is_canonical :
    ∃ groups listing after,
      (listObservations deployment ["b", "a"]).run.run books = (.ok listing, after) ∧
        groups = ["b", "a"] ∧
        Canonical [.publicBucket] groups books.store
          (keptIn groups books.store (Window.weekTo books.supply.reading)) listing :=
  listings_are_canonical (show books.store = .ofChanges changes from rfl)
    (show Owns deployment ["a", "b"] from fun _ => rfl) (by decide) (by decide) (by decide)
    (by decide) (by decide) (by decide)

end Mixed

end Service

end CloudAudit
