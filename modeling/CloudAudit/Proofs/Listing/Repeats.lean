import CloudAudit.Proofs.Listing.Canonical
/-!
# Groups that are named twice

A listing reads the observations of a group once for each time that the group is named, but has one
entry for it. So the order of the names does not matter, and to name a group again repeats what its
entry shows.
-/
set_option autoImplicit false

namespace CloudAudit

theorem Store.loggedOf_congr (store : Store) (window : Window) {groups others : List String}
    (same : ∀ group, group ∈ groups ↔ group ∈ others) :
    store.loggedOf window groups = store.loggedOf window others := by
  have alike : (fun entry : Operation => groups.contains entry.resourceGroup) =
      fun entry => others.contains entry.resourceGroup := by
    funext entry
    rw [Bool.eq_iff_iff, List.contains_iff_mem, List.contains_iff_mem, same]
  rw [loggedOf, loggedOf, alike]

namespace Service

/-- A listing in which all that stands under a group stands there as often as the group is named,
and once if it is not. -/
def repeated (requested : List String) (listing : List GroupObservations) :
    List GroupObservations :=
  listing.map fun entry =>
    { entry with
      rulesObservations := entry.rulesObservations.map fun rule =>
        { rule with
          observations :=
            (List.replicate (max 1 (requested.count entry.resourceGroupName))
              rule.observations).flatten } }

theorem map_eq_self_iff {α : Type} {function : α → α} {list : List α} :
    list.map function = list ↔ ∀ value ∈ list, function value = value := by
  rw [← List.map_inj_left, List.map_id']

theorem flatten_replicate_eq_self_iff {α : Type} (times : Nat) (list : List α) :
    (List.replicate times list).flatten = list ↔ times = 1 ∨ list = [] := by
  constructor
  · intro same
    have lengths : times * list.length = 1 * list.length := by
      simpa using congrArg List.length same
    rcases List.eq_nil_or_concat list with nothing | ⟨_, _, some⟩
    · exact .inr nothing
    · refine .inl (Nat.eq_of_mul_eq_mul_right ?_ lengths)
      simp [some]
  · rintro (rfl | rfl) <;> simp

/-- Repeating shows nowhere but where a group is named more than once and has something to show. -/
theorem repeated_eq_self_iff (requested : List String) (listing : List GroupObservations) :
    repeated requested listing = listing ↔
      ∀ entry ∈ listing, 1 < requested.count entry.resourceGroupName →
        ∀ rule ∈ entry.rulesObservations, rule.observations = [] := by
  rw [repeated, map_eq_self_iff]
  refine forall₂_congr fun entry _ => ?_
  obtain ⟨group, byRule⟩ := entry
  simp only [GroupObservations.mk.injEq, true_and, map_eq_self_iff]
  have each : ∀ rule : RuleObservations,
      { rule with
          observations :=
            (List.replicate (max 1 (requested.count group)) rule.observations).flatten } = rule ↔
        max 1 (requested.count group) = 1 ∨ rule.observations = [] := by
    rintro ⟨name, found⟩
    simp only [RuleObservations.mk.injEq, true_and, flatten_replicate_eq_self_iff]
  simp only [each]
  constructor
  · intro alike twice rule member
    refine (alike rule member).resolve_left ?_
    omega
  · intro empty rule member
    by_cases twice : 1 < requested.count group
    · exact .inr (empty twice rule member)
    · exact .inl (by omega)

section

variable {store : Store} (placed : store.Placed) (window : Window)
include placed

/-- What is kept of a group and a name, once for each time that the group is named. -/
theorem filter_keptIn (groups : List String) (group name : String) :
    ((keptIn groups store window).filter fun found =>
        found.groupName == group && found.name == name) =
      (List.replicate (groups.count group)
        ((latestScanOnly (store.seenIn window group)
          (latestCompletedScans (store.loggedOf window groups))).filter fun found =>
            found.name == name)).flatten := by
  have own : ∀ group ∈ groups, ∀ found ∈ (latestScanOnly (store.seenIn window group)
      (latestCompletedScans (store.loggedOf window groups))).filter (fun found =>
        found.name == name), found.groupName = group := by
    intro group _ found member
    exact placed group found
      (List.mem_filter.1 (mem_latestScanOnly.1 (List.mem_filter.1 member).1).1).1
  rw [← List.filter_filter, keptIn, latestScanOnly_selected placed, List.filter_flatMap]
  exact Store.filter_flatMap_repeated Observation.groupName own group

theorem mem_keptIn_congr {groups others : List String}
    (same : ∀ group, group ∈ groups ↔ group ∈ others) (found : Observation) :
    found ∈ keptIn groups store window ↔ found ∈ keptIn others store window := by
  rw [keptIn, keptIn, latestScanOnly_selected placed, latestScanOnly_selected placed,
    Store.loggedOf_congr store window same, List.mem_flatMap, List.mem_flatMap]
  simp only [same]

/-- A listing of groups, some of them named more than once, repeats the entries of these groups. -/
theorem answerIn_repeated (rules : List Rule) {requested distinct : List String}
    (once : distinct.Nodup) (same : ∀ group, group ∈ distinct ↔ group ∈ requested) :
    answerIn rules requested store window =
      repeated requested (answerIn rules distinct store window) := by
  have sameGroups : (grouped rules requested (keptIn requested store window)).names =
      (grouped rules distinct (keptIn distinct store window)).names := by
    refine Table.names_eq_of_mem_iff fun group => ?_
    rw [Table.mem_names_iff, Table.mem_names_iff, contains_grouped, contains_grouped, same]
    simp only [mem_keptIn_congr placed window same]
  have sameNames : ∀ group,
      namesUnder (grouped rules requested (keptIn requested store window)) group =
        namesUnder (grouped rules distinct (keptIn distinct store window)) group := by
    intro group
    refine Table.names_eq_of_mem_iff fun name => ?_
    refine (mem_namesUnder_grouped _ _ _ _ _).trans (Iff.trans ?_
      (mem_namesUnder_grouped _ _ _ _ _).symm)
    rw [same]
    simp only [mem_keptIn_congr placed window same]
  rw [answerIn, entries_eq, sameGroups, answerIn, entries_eq, repeated, List.map_map]
  refine List.map_congr_left fun group isGroup => ?_
  have covered : group ∈ distinct := by
    rw [Table.mem_names_iff, contains_grouped] at isGroup
    refine isGroup.elim id ?_
    rintro ⟨found, kept, rfl⟩
    exact groupName_of_kept placed kept
  have asked : 0 < requested.count group := List.count_pos_iff.2 ((same group).1 covered)
  simp only [Function.comp_apply, sameNames, List.map_map, GroupObservations.mk.injEq, true_and]
  refine List.map_congr_left fun name _ => ?_
  simp only [Function.comp_apply, contents_grouped, filter_keptIn placed window,
    Store.loggedOf_congr store window same, List.count_eq_one_of_mem once covered,
    List.replicate_one, List.flatten_singleton, Nat.max_eq_right asked]

end

theorem listObservations_repeated {deployment : Deployment}
    {owned requested distinct : List String} {books : Books} (placed : books.store.Placed)
    (owns : Owns deployment owned) (asked : ∀ group ∈ requested, group ∈ owned)
    (once : distinct.Nodup) (same : ∀ group, group ∈ distinct ↔ group ∈ requested) :
    (listObservations deployment requested).run.run books =
      (((listObservations deployment distinct).run.run books).1.map (repeated requested),
        ((listObservations deployment distinct).run.run books).2) := by
  have known : ∀ group ∈ distinct, group ∈ owned := fun group member =>
    asked group ((same group).1 member)
  have valid := owns.validateGroups_run requested books
  have validOnce := owns.validateGroups_run distinct books
  rw [permitted_of_owned asked] at valid
  rw [permitted_of_owned known] at validOnce
  have answers : ∀ window,
      answerIn deployment.rules (if requested = [] then owned else requested) books.store window =
        repeated requested
          (answerIn deployment.rules (if distinct = [] then owned else distinct) books.store
            window) := by
    intro window
    by_cases nothing : requested = []
    · have nothingElse : distinct = [] := by
        simpa [nothing, List.eq_nil_iff_forall_not_mem] using same
      rw [if_pos nothing, if_pos nothingElse, eq_comm, repeated_eq_self_iff, nothing]
      simp
    · have something : distinct ≠ [] := by
        obtain ⟨group, member⟩ := List.exists_mem_of_ne_nil _ nothing
        exact List.ne_nil_of_mem ((same group).2 member)
      rw [if_neg nothing, if_neg something]
      exact answerIn_repeated placed window deployment.rules once same
  rw [listObservations_run valid, listObservations_run validOnce, Books.map_run, Books.map_run]
  refine Prod.ext ?_ rfl
  cases (visit.run.run books).1 with
  | error error => rfl
  | ok window => exact congrArg Except.ok (answers window)

/-- To name owned groups again or in another order changes nothing but how often the observations of
a group stand in its entry, and that only if a group that has some is named more than once. -/
theorem repeated_groups_listed {deployment : Deployment} {owned requested distinct : List String}
    {books after : Books} {changes : List StoreChange}
    {answer : Except AuditError (List GroupObservations)}
    (reached : books.store = .ofChanges changes) (owns : Owns deployment owned)
    (asked : ∀ group ∈ requested, group ∈ owned) (once : distinct.Nodup)
    (same : ∀ group, group ∈ distinct ↔ group ∈ requested)
    (ran : (listObservations deployment distinct).run.run books = (answer, after)) :
    (listObservations deployment requested).run.run books =
        (answer.map (repeated requested), after) ∧
      ((listObservations deployment requested).run.run books = (answer, after) ↔
        ∀ listing, answer = .ok listing → ∀ entry ∈ listing,
          1 < requested.count entry.resourceGroupName →
            ∀ rule ∈ entry.rulesObservations, rule.observations = []) := by
  have placed : books.store.Placed := by
    rw [reached]
    exact Store.placed_ofChanges changes
  have repeats := listObservations_repeated placed owns asked once same
  rw [ran] at repeats
  refine ⟨repeats, ?_⟩
  rw [repeats, Prod.mk.injEq, eq_self_iff_true, and_true]
  cases answer with
  | error error => simp [Except.map]
  | ok listing =>
    simp only [Except.map, Except.ok.injEq, repeated_eq_self_iff, forall_eq']

namespace Twice

def deployment : Deployment where
  inventory := ⟨[]⟩
  rules := []
  access := .owned ["g1"]
  contacts := default
  notificationInterval := .zero
  sourceSystem := "CloudAudit"

def finding : Observation where
  name := "EXTERNAL"
  resourceRef := { name := "g1", resourceGroupName := "g1" }
  timestamp := some ⟨40, 0⟩
  remediation := ⟨"d", "r"⟩

def changes : List StoreChange := [.addObservations [finding]]

def books : Books where
  store := .ofChanges changes
  supply := { now := ⟨100, 0⟩ }

theorem owns : Owns deployment ["g1"] :=
  fun _ => rfl

theorem asked : ∀ group ∈ ["g1", "g1"], group ∈ ["g1"] := by
  decide

theorem same (group : String) : group ∈ ["g1"] ↔ group ∈ ["g1", "g1"] := by
  simp

def listing : List GroupObservations :=
  [⟨"g1", [⟨"EXTERNAL", [finding]⟩]⟩]

theorem lists : ∃ after,
    (listObservations deployment ["g1"]).run.run books = (.ok listing, after) := by
  have valid : (validateGroups deployment ["g1"]).run.run books = (.ok ["g1"], books) := rfl
  have answered : answerIn [] ["g1"] books.store (Window.weekTo books.supply.reading) =
      listing := by
    rw [answerIn, keptIn, Store.loggedOf_of_chronological _ _ (by decide)]
    decide +kernel
  refine ⟨(books.ticked 1).counted.counted, ?_⟩
  rw [listObservations_run valid, Books.map_run,
    visit_run (by decide) (by decide) (by decide) (by decide)]
  exact congrArg (fun answer => (Except.ok answer, _)) answered

theorem named_twice_listed_twice : ∃ after,
    (listObservations deployment ["g1", "g1"]).run.run books =
      (.ok [⟨"g1", [⟨"EXTERNAL", [finding, finding]⟩]⟩], after) := by
  obtain ⟨after, ran⟩ := lists
  exact ⟨after, (repeated_groups_listed (show books.store = .ofChanges changes from rfl) owns
    asked (by decide) same ran).1⟩

end Twice

/-- A group that is named twice has another listing than the same group named once. -/
theorem repeated_names_matter :
    ¬ ∀ (deployment : Deployment) (owned requested distinct : List String) (books : Books)
        (changes : List StoreChange),
      books.store = .ofChanges changes → Owns deployment owned →
      (∀ group ∈ requested, group ∈ owned) → distinct.Nodup →
      (∀ group, group ∈ distinct ↔ group ∈ requested) →
      (listObservations deployment requested).run.run books =
        (listObservations deployment distinct).run.run books := by
  intro alike
  have once := alike _ _ _ _ _ _ (show Twice.books.store = .ofChanges Twice.changes from rfl)
    Twice.owns Twice.asked (by decide) Twice.same
  have placed : Twice.books.store.Placed := Store.placed_ofChanges Twice.changes
  have twice := listObservations_repeated placed Twice.owns Twice.asked (by decide) Twice.same
  obtain ⟨after, ran⟩ := Twice.lists
  rw [once, ran] at twice
  have unchanged : Twice.listing = repeated ["g1", "g1"] Twice.listing :=
    Except.ok.inj (Prod.mk.inj twice).1
  exact absurd unchanged (by decide)

end Service

end CloudAudit
