import CloudAudit.Service
/-!
# Observations by group and rule

Grouping loses nothing, repeats nothing and keeps the order: under a group and a name stand the
observations of that group and that name, in the order in which they came.
-/
set_option autoImplicit false

namespace CloudAudit

/-! ## Groups and rules -/

def Listed (listing : List GroupObservations) (observation : Observation) : Prop :=
  ∃ group ∈ listing, ∃ rule ∈ group.rulesObservations, observation ∈ rule.observations

instance (listing : List GroupObservations) (observation : Observation) :
    Decidable (Listed listing observation) :=
  inferInstanceAs (Decidable (∃ group ∈ listing, ∃ rule ∈ group.rulesObservations, _))

def Covers (listing : List GroupObservations) (group : String) : Prop :=
  ∃ entry ∈ listing, entry.resourceGroupName = group

namespace Service

def contents (table : Table ByRule) (group name : String) : List Observation :=
  ((table.get? group).bind fun byRule => byRule.get? name).getD []

theorem contents_place (table : Table ByRule) (observation : Observation) (group name : String) :
    contents (place table observation) group name =
      contents table group name ++
        [observation].filter fun found => found.groupName == group && found.name == name := by
  rw [contents, place, Table.get?_update]
  by_cases own : observation.groupName = group
  · subst own
    rw [if_pos rfl, Option.bind_some, Table.get?_update]
    by_cases named : observation.name = name
    · subst named
      have before : ((table.get? observation.groupName).getD Table.empty).get? observation.name =
          (table.get? observation.groupName).bind fun byRule => byRule.get? observation.name := by
        cases table.get? observation.groupName <;> rfl
      rw [if_pos rfl, before]
      simp [contents]
    · have before : ((table.get? observation.groupName).getD Table.empty).get? name =
          (table.get? observation.groupName).bind fun byRule => byRule.get? name := by
        cases table.get? observation.groupName <;> rfl
      rw [if_neg (Ne.symm named), before]
      simp [contents, named]
  · rw [if_neg (Ne.symm own)]
    simp [contents, own]

theorem contents_foldl_place (observations : List Observation) (table : Table ByRule)
    (group name : String) :
    contents (observations.foldl place table) group name =
      contents table group name ++
        observations.filter fun found => found.groupName == group && found.name == name := by
  induction observations generalizing table with
  | nil => simp
  | cons observation observations ih =>
    rw [List.foldl_cons, ih, contents_place, List.append_assoc, ← List.filter_append,
      List.singleton_append]

theorem contains_foldl_place (observations : List Observation) (table : Table ByRule)
    (group : String) :
    (observations.foldl place table).contains group = true ↔
      table.contains group = true ∨ ∃ found ∈ observations, found.groupName = group := by
  induction observations generalizing table with
  | nil => simp
  | cons observation observations ih =>
    rw [List.foldl_cons, ih, place]
    simp only [Table.contains, Table.get?_update]
    by_cases own : group = observation.groupName
    · simp [own]
    · simp [own, Ne.symm own]

def namesUnder (table : Table ByRule) (group : String) : List String :=
  ((table.get? group).getD Table.empty).names

theorem mem_namesUnder_place (table : Table ByRule) (observation : Observation)
    (group name : String) :
    name ∈ namesUnder (place table observation) group ↔
      name ∈ namesUnder table group ∨ observation.groupName = group ∧ observation.name = name := by
  rw [namesUnder, place, Table.get?_update]
  by_cases own : group = observation.groupName
  · subst own
    rw [if_pos rfl, Option.getD_some, Table.mem_names_update, or_comm, @eq_comm _ name]
    simp [namesUnder]
  · simp [namesUnder, own, Ne.symm own]

theorem mem_namesUnder_foldl_place (observations : List Observation) (table : Table ByRule)
    (group name : String) :
    name ∈ namesUnder (observations.foldl place table) group ↔
      name ∈ namesUnder table group ∨
        ∃ found ∈ observations, found.groupName = group ∧ found.name = name := by
  induction observations generalizing table with
  | nil => simp
  | cons observation observations ih =>
    rw [List.foldl_cons, ih, mem_namesUnder_place, or_assoc]
    simp only [List.mem_cons, exists_eq_or_imp]

/-- The places that a listing prepares. -/
def prepared (rules : List Rule) (groups : List String) : Table ByRule :=
  .ofList (groups.map fun group => (group, emptyByRule rules))

theorem contents_prepared (rules : List Rule) (groups : List String) (group name : String) :
    contents (prepared rules groups) group name = [] := by
  have blank : (emptyByRule rules).get? name =
      if name ∈ rules.map Rule.name then some [] else none := by
    rw [← Table.get?_ofList_alike, List.map_map]
    rfl
  rw [contents, prepared, Table.get?_ofList_alike]
  split
  · rw [Option.bind_some, blank]
    split <;> rfl
  · rfl

theorem contains_prepared (rules : List Rule) (groups : List String) (group : String) :
    (prepared rules groups).contains group = true ↔ group ∈ groups := by
  rw [Table.contains, prepared, Table.get?_ofList_alike]
  split <;> simp_all

theorem contents_grouped (rules : List Rule) (groups : List String)
    (observations : List Observation) (group name : String) :
    contents (grouped rules groups observations) group name =
      observations.filter fun found => found.groupName == group && found.name == name := by
  have all := contents_foldl_place observations (prepared rules groups) group name
  rw [contents_prepared, List.nil_append] at all
  exact all

theorem contains_grouped (rules : List Rule) (groups : List String)
    (observations : List Observation) (group : String) :
    (grouped rules groups observations).contains group = true ↔
      group ∈ groups ∨ ∃ found ∈ observations, found.groupName = group := by
  have all := contains_foldl_place observations (prepared rules groups) group
  rw [contains_prepared] at all
  exact all

theorem mem_namesUnder_prepared (rules : List Rule) (groups : List String) (group name : String) :
    name ∈ namesUnder (prepared rules groups) group ↔
      group ∈ groups ∧ name ∈ rules.map Rule.name := by
  have names : name ∈ (emptyByRule rules).names ↔ name ∈ rules.map Rule.name := by
    rw [← Table.mem_names_ofList_alike (rules.map Rule.name) ([] : List Observation),
      List.map_map]
    rfl
  rw [namesUnder, prepared, Table.get?_ofList_alike, ← names]
  split <;> simp_all [Table.names_empty]

/-- Under a group that is listed stand the known rules, and under each group the names that were
observed in it. -/
theorem mem_namesUnder_grouped (rules : List Rule) (groups : List String)
    (observations : List Observation) (group name : String) :
    name ∈ namesUnder (grouped rules groups observations) group ↔
      group ∈ groups ∧ name ∈ rules.map Rule.name ∨
        ∃ found ∈ observations, found.groupName = group ∧ found.name = name := by
  rw [← mem_namesUnder_prepared]
  exact mem_namesUnder_foldl_place observations (prepared rules groups) group name

/-! ## The entries of a listing -/

/-- A listing has an entry for each group, and in it one for each name under the group. -/
theorem entries_eq (table : Table ByRule) :
    entries table = table.names.map fun group =>
      ⟨group, (namesUnder table group).map fun name => ⟨name, contents table group name⟩⟩ := by
  rw [entries, Table.names, List.map_map]
  refine List.map_congr_left ?_
  rintro ⟨group, byRule⟩ inTable
  have found : table.get? group = some byRule := (Table.get?_eq_some_iff _ _ _).2 inTable
  simp only [Function.comp_apply, namesUnder, contents, found, Option.getD_some, Option.bind_some,
    Table.names, List.map_map, GroupObservations.mk.injEq, true_and]
  refine List.map_congr_left ?_
  rintro ⟨name, observations⟩ inByRule
  simp [(Table.get?_eq_some_iff _ _ _).2 inByRule]

theorem covers_entries_iff (table : Table ByRule) (group : String) :
    Covers (entries table) group ↔ table.contains group = true := by
  rw [← Table.mem_names_iff]
  constructor
  · rintro ⟨_, isEntry, rfl⟩
    obtain ⟨entry, inTable, rfl⟩ := List.mem_map.1 isEntry
    exact List.mem_map.2 ⟨entry, inTable, rfl⟩
  · intro named
    obtain ⟨entry, inTable, rfl⟩ := List.mem_map.1 named
    exact ⟨_, List.mem_map.2 ⟨entry, inTable, rfl⟩, rfl⟩

theorem listed_entries_iff (table : Table ByRule) (observation : Observation) :
    Listed (entries table) observation ↔
      ∃ group name, observation ∈ contents table group name := by
  constructor
  · rintro ⟨_, isEntry, _, isRule, member⟩
    obtain ⟨⟨group, byRule⟩, inTable, rfl⟩ := List.mem_map.1 isEntry
    obtain ⟨⟨name, found⟩, inByRule, rfl⟩ := List.mem_map.1 isRule
    refine ⟨group, name, ?_⟩
    rw [contents, (Table.get?_eq_some_iff _ _ _).2 inTable, Option.bind_some,
      (Table.get?_eq_some_iff _ _ _).2 inByRule]
    exact member
  · rintro ⟨group, name, member⟩
    rw [contents] at member
    cases inTable : table.get? group with
    | none => simp [inTable] at member
    | some byRule =>
      cases inByRule : byRule.get? name with
      | none => simp [inTable, inByRule] at member
      | some found =>
        simp only [inTable, Option.bind_some, inByRule, Option.getD_some] at member
        refine ⟨_, List.mem_map.2 ⟨_, (Table.get?_eq_some_iff _ _ _).1 inTable, rfl⟩, _,
          List.mem_map.2 ⟨_, (Table.get?_eq_some_iff _ _ _).1 inByRule, rfl⟩, member⟩

theorem listed_grouped_iff (rules : List Rule) (groups : List String)
    (observations : List Observation) (observation : Observation) :
    Listed (entries (grouped rules groups observations)) observation ↔
      observation ∈ observations := by
  simp [listed_entries_iff, contents_grouped]

theorem covers_grouped_iff (rules : List Rule) (groups : List String)
    (observations : List Observation) (group : String) :
    Covers (entries (grouped rules groups observations)) group ↔
      group ∈ groups ∨ ∃ found ∈ observations, found.groupName = group := by
  rw [covers_entries_iff, contains_grouped]

theorem observations_entry {rules : List Rule} {groups : List String}
    {observations : List Observation} {entry : GroupObservations}
    (isEntry : entry ∈ entries (grouped rules groups observations)) {rule : RuleObservations}
    (isRule : rule ∈ entry.rulesObservations) :
    rule.observations = observations.filter fun found =>
      found.groupName == entry.resourceGroupName && found.name == rule.rule := by
  rw [entries_eq] at isEntry
  obtain ⟨group, -, rfl⟩ := List.mem_map.1 isEntry
  obtain ⟨name, -, rfl⟩ := List.mem_map.1 isRule
  exact contents_grouped rules groups observations group name

/-! ## A single group -/

/-- What was found under each of some names in a group. -/
def filed (group : String) (names : List String) (found : String → List Observation) :
    Table ByRule :=
  .ofList [(group, .ofList (names.map fun name => (name, found name)))]

theorem get?_filed (group : String) (names : List String) (found : String → List Observation)
    (other : String) :
    (filed group names found).get? other =
      if other = group then some (.ofList (names.map fun name => (name, found name)))
      else none := by
  rw [filed, Table.get?_ofList, List.reverse_singleton, Table.lookup_entry]
  rfl

theorem place_filed {group : String} {names : List String} (found : String → List Observation)
    {observation : Observation} (lies : observation.groupName = group)
    (known : observation.name ∈ names) :
    place (filed group names found) observation =
      filed group names fun name =>
        found name ++ [observation].filter fun other => other.name == name := by
  apply Table.ext_get?
  intro other
  rw [place, Table.get?_update, get?_filed, get?_filed, get?_filed, lies]
  by_cases same : other = group
  · rw [if_pos same, if_pos same, if_pos rfl, Option.getD_some]
    refine congrArg some (Table.ext_get? fun name => ?_)
    rw [Table.get?_update, Table.get?_ofList_map, Table.get?_ofList_map, Table.get?_ofList_map,
      if_pos known]
    by_cases own : name = observation.name
    · subst own
      simp [known]
    · simp [own, Ne.symm own]
  · rw [if_neg same, if_neg same, if_neg same]

theorem foldl_place_filed {group : String} {names : List String} (observations : List Observation)
    (found : String → List Observation)
    (known : ∀ observation ∈ observations,
      observation.groupName = group ∧ observation.name ∈ names) :
    observations.foldl place (filed group names found) =
      filed group names fun name =>
        found name ++ observations.filter fun other => other.name == name := by
  induction observations generalizing found with
  | nil => simp
  | cons observation observations ih =>
    obtain ⟨⟨lies, named⟩, rest⟩ := List.forall_mem_cons.1 known
    rw [List.foldl_cons, place_filed found lies named, ih _ rest]
    simp only [List.append_assoc, ← List.filter_append, List.singleton_append]

/-- The observations of one group under the names of its rules. -/
theorem grouped_single (rules : List Rule) {group : String} {observations : List Observation}
    (known : ∀ observation ∈ observations,
      observation.groupName = group ∧ observation.name ∈ rules.map Rule.name) :
    grouped rules [group] observations =
      filed group (rules.map Rule.name) fun name =>
        observations.filter fun other => other.name == name := by
  have blank : (Table.ofList ([group].map fun group => (group, emptyByRule rules))) =
      filed group (rules.map Rule.name) fun _ => [] := by
    rw [filed, List.map_map]
    rfl
  rw [grouped, blank, foldl_place_filed observations _ known]
  simp only [List.nil_append]

/-- A listing of one group: the built-in rules in the order of their names, with what each found. -/
def listingOf (group : String) (found : Rule → List Observation) : List GroupObservations :=
  [⟨group, [Rule.publicBucket, .humanWithBasicRole, .missingContactLabels].map fun rule =>
    ⟨rule.name, found rule⟩⟩]

theorem entries_builtin (group : String) (found : String → List Observation) :
    entries (filed group (Rule.builtin.map Rule.name) found) =
      listingOf group fun rule => found rule.name := by
  have second : ¬ Rule.missingContactLabels.name < Rule.humanWithBasicRole.name := by decide
  have distinct : Rule.missingContactLabels.name ≠ Rule.humanWithBasicRole.name := by decide
  have first : Rule.publicBucket.name < Rule.humanWithBasicRole.name := by decide
  simp only [entries, filed, listingOf, Rule.builtin, Table.ofList, Table.insert, Table.empty,
    Table.put, List.map_cons, List.map_nil, List.foldl_cons, List.foldl_nil, if_pos first,
    if_neg second, if_neg distinct]

end Service

end CloudAudit
