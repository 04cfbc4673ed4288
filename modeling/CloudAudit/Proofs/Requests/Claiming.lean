import CloudAudit.Requests
/-!
# Claiming and ending, as changes of what a table answers

What registering and ending a request do to the holders of groups, to the dependencies and to the
stored statuses. These hold of every table, reachable or not.
-/
set_option autoImplicit false

namespace CloudAudit.ClaimTable

/-- Whether a request was ever registered. -/
def Registered (table : ClaimTable) (id : String) : Prop :=
  table.statuses.contains id = true

instance (table : ClaimTable) (id : String) : Decidable (table.Registered id) :=
  inferInstanceAs (Decidable (table.statuses.contains id = true))

/-- Whether no other request holds a group. -/
def isFree (table : ClaimTable) (id group : String) : Bool :=
  (table.holder? group).all fun owner => owner == id

theorem isFree_iff (table : ClaimTable) (id group : String) :
    table.isFree id group = true ↔ ∀ owner, table.holder? group = some owner → owner = id := by
  cases held : table.holder? group <;> simp [isFree, held]

theorem registered_iff (table : ClaimTable) (id : String) :
    table.Registered id ↔ ∃ status, table.statuses.get? id = some status :=
  Table.contains_iff table.statuses id

theorem dependenciesOf_update (table : ClaimTable) (id owner name : String) :
    ({ table with
        dependencies := table.dependencies.update id Table.empty fun found => found.add owner }
      : ClaimTable).dependenciesOf name =
      if name = id then
        (((table.dependencies.get? id).getD Table.empty).add owner).names
      else table.dependenciesOf name := by
  simp only [dependenciesOf, Table.get?_update]
  by_cases same : name = id <;> simp [same]

theorem mem_names_getD (table : ClaimTable) (id other : String) :
    other ∈ ((table.dependencies.get? id).getD Table.empty).names ↔
      other ∈ table.dependenciesOf id := by
  cases found : table.dependencies.get? id with
  | none => simp [dependenciesOf, found, Table.names, Table.empty]
  | some set => simp [dependenciesOf, found]

/-! ## One group -/

section Group

variable (id : String) (granted : List String) (table : ClaimTable) (group : String)

theorem claimGroup_statuses :
    (claimGroup id granted table group).2.statuses = table.statuses := by
  simp only [claimGroup]
  split
  · split <;> rfl
  · rfl

theorem claimGroup_holder? (other : String) :
    (claimGroup id granted table group).2.holder? other =
      if other = group then some ((table.holder? group).getD id) else table.holder? other := by
  cases held : table.holder? group with
  | none =>
    have claimed : (claimGroup id granted table group).2.claims = table.claims.insert group id := by
      simp only [claimGroup, held]
    simp only [holder?, claimed, Table.get?_insert, Option.getD_none]
  | some owner =>
    have unchanged : (claimGroup id granted table group).2.claims = table.claims := by
      simp only [claimGroup, held]
      split <;> rfl
    simp only [holder?, unchanged] at held ⊢
    by_cases same : other = group
    · rw [if_pos same, same, held, Option.getD_some]
    · rw [if_neg same]

theorem mem_claimGroup_dependencies (name other : String) :
    other ∈ (claimGroup id granted table group).2.dependenciesOf name ↔
      other ∈ table.dependenciesOf name ∨
        name = id ∧ other ≠ id ∧ table.holder? group = some other := by
  cases held : table.holder? group with
  | none =>
    simp only [claimGroup, held]
    simp [dependenciesOf]
  | some owner =>
    by_cases own : owner = id
    · simp only [claimGroup, held, if_pos own, Option.some.injEq]
      constructor
      · exact Or.inl
      · rintro (known | ⟨_, foreign, same⟩)
        · exact known
        · exact absurd (same.symm.trans own) foreign
    · simp only [claimGroup, held, if_neg own, Option.some.injEq, dependenciesOf_update]
      by_cases same : name = id
      · subst same
        rw [if_pos rfl, NameSet.mem_names_add, mem_names_getD]
        constructor
        · rintro (added | known)
          · subst added
            exact Or.inr ⟨rfl, own, rfl⟩
          · exact Or.inl known
        · rintro (known | ⟨_, _, added⟩)
          · exact Or.inr known
          · exact Or.inl added.symm
      · simp [same]

theorem claimGroup_granted (held : ∀ name ∈ granted, table.holder? name = some id) :
    (claimGroup id granted table group).1 =
      if table.isFree id group ∧ group ∉ granted then granted ++ [group] else granted := by
  cases found : table.holder? group with
  | none =>
    have fresh : group ∉ granted := fun member => by simp [held group member] at found
    simp [claimGroup, isFree, found, fresh]
  | some owner =>
    by_cases own : owner = id
    · by_cases known : group ∈ granted <;> simp [claimGroup, isFree, found, own, known]
    · simp [claimGroup, isFree, found, own]

end Group

/-! ## Several groups -/

theorem claimGroups_cons (id : String) (granted : List String) (group : String)
    (groups : List String) (table : ClaimTable) :
    claimGroups id granted (group :: groups) table =
      claimGroups id (claimGroup id granted table group).1 groups
        (claimGroup id granted table group).2 := rfl

theorem claimGroups_statuses (id : String) (groups : List String) :
    ∀ (granted : List String) (table : ClaimTable),
      (claimGroups id granted groups table).2.statuses = table.statuses := by
  induction groups with
  | nil => intro granted table; rfl
  | cons group groups ih =>
    intro granted table
    rw [claimGroups_cons, ih, claimGroup_statuses]

theorem claimGroups_holder? (id : String) (groups : List String) (other : String) :
    ∀ (granted : List String) (table : ClaimTable),
      (claimGroups id granted groups table).2.holder? other =
        if other ∈ groups then some ((table.holder? other).getD id)
        else table.holder? other := by
  induction groups with
  | nil => intro granted table; simp [claimGroups]
  | cons group groups ih =>
    intro granted table
    rw [claimGroups_cons, ih, claimGroup_holder?]
    by_cases same : other = group
    · subst same
      simp
    · simp [same]

theorem mem_claimGroups_dependencies (id : String) (groups : List String) (name other : String) :
    ∀ (granted : List String) (table : ClaimTable),
      other ∈ (claimGroups id granted groups table).2.dependenciesOf name ↔
        other ∈ table.dependenciesOf name ∨
          name = id ∧ other ≠ id ∧ ∃ group ∈ groups, table.holder? group = some other := by
  induction groups with
  | nil => intro granted table; simp [claimGroups]
  | cons group groups ih =>
    intro granted table
    -- A group claimed just now is held by `id` itself, which is no blocker.
    have blockers : other ≠ id →
        ((∃ later ∈ groups, (claimGroup id granted table group).2.holder? later = some other) ∨
            table.holder? group = some other ↔
          ∃ later ∈ group :: groups, table.holder? later = some other) := by
      intro foreign
      simp only [claimGroup_holder?, List.mem_cons]
      constructor
      · rintro (⟨later, member, held⟩ | held)
        · by_cases same : later = group
          · rw [if_pos same] at held
            cases found : table.holder? group with
            | none => simp [found] at held; exact absurd held.symm foreign
            | some owner => exact ⟨group, Or.inl rfl, by simpa [found] using held⟩
          · rw [if_neg same] at held
            exact ⟨later, Or.inr member, held⟩
        · exact ⟨group, Or.inl rfl, held⟩
      · rintro ⟨later, same | member, held⟩
        · exact Or.inr (same ▸ held)
        · by_cases same : later = group
          · exact Or.inr (same ▸ held)
          · exact Or.inl ⟨later, member, by rw [if_neg same]; exact held⟩
    rw [claimGroups_cons, ih, mem_claimGroup_dependencies]
    constructor
    · rintro ((known | ⟨same, foreign, held⟩) | ⟨same, foreign, held⟩)
      · exact Or.inl known
      · exact Or.inr ⟨same, foreign, (blockers foreign).1 (Or.inr held)⟩
      · exact Or.inr ⟨same, foreign, (blockers foreign).1 (Or.inl held)⟩
    · rintro (known | ⟨same, foreign, held⟩)
      · exact Or.inl (Or.inl known)
      · rcases (blockers foreign).2 held with later | first
        · exact Or.inr ⟨same, foreign, later⟩
        · exact Or.inl (Or.inr ⟨same, foreign, first⟩)

theorem claimGroups_granted (id : String) (groups : List String) :
    ∀ (granted : List String) (table : ClaimTable),
      (∀ name ∈ granted, table.holder? name = some id) →
      (claimGroups id granted groups table).1 = granted ++
        (groups.filter fun group =>
          table.isFree id group && !granted.contains group).eraseDups := by
  induction groups with
  | nil => intro granted table held; simp [claimGroups]
  | cons group groups ih =>
    intro granted table held
    have free : (claimGroup id granted table group).2.isFree id = table.isFree id := by
      funext other
      rw [Bool.eq_iff_iff, isFree_iff, isFree_iff, claimGroup_holder?]
      by_cases same : other = group
      · subst same
        cases table.holder? other <;> simp
      · rw [if_neg same]
    have stillHeld : ∀ name ∈ (claimGroup id granted table group).1,
        (claimGroup id granted table group).2.holder? name = some id := by
      intro name member
      rw [claimGroup_granted id granted table group held] at member
      rw [claimGroup_holder?]
      by_cases taken : table.isFree id group ∧ group ∉ granted
      · rw [if_pos taken, List.mem_append, List.mem_singleton] at member
        by_cases same : name = group
        · have unheld := (isFree_iff table id group).1 taken.1
          cases found : table.holder? group with
          | none => simp [same]
          | some owner => simp [same, unheld owner found]
        · rw [if_neg same]
          exact held name (member.resolve_right same)
      · rw [if_neg taken] at member
        by_cases same : name = group
        · simp [same, held group (same ▸ member)]
        · rw [if_neg same]
          exact held name member
    rw [claimGroups_cons, ih _ _ stillHeld, free, claimGroup_granted id granted table group held]
    by_cases taken : table.isFree id group ∧ group ∉ granted
    · have kept : (table.isFree id group && !granted.contains group) = true := by simp [taken]
      simp only [if_pos taken, List.filter_cons, kept, if_true, List.eraseDups_cons,
        List.filter_filter, List.append_assoc, List.singleton_append]
      congr 3
      apply List.filter_congr
      intro other _
      cases table.isFree id other <;> by_cases known : other ∈ granted <;>
        by_cases same : other = group <;> simp [known, same]
    · have dropped : ¬ (table.isFree id group && !granted.contains group) = true := by
        simpa using taken
      simp only [if_neg taken, List.filter_cons, if_neg dropped]

/-! ## Registering a request -/

section Add

variable (table : ClaimTable) (id : String) (groups : List String)

/-- A request is granted the groups that no other request holds, each once and in the order in which
it asked for them. -/
theorem add_granted :
    (table.add id groups).1 = (groups.filter (table.isFree id)).eraseDups := by
  have granted := claimGroups_granted id groups [] (table.setStatus id .running) (by simp)
  have same : (table.setStatus id .running).isFree id = table.isFree id := rfl
  simp only [List.contains_nil, Bool.not_false, Bool.and_true, List.nil_append, same] at granted
  simp only [add]
  split <;> exact granted

theorem add_holder? (group : String) :
    (table.add id groups).2.holder? group =
      if group ∈ groups then some ((table.holder? group).getD id) else table.holder? group := by
  have held := claimGroups_holder? id groups group [] (table.setStatus id .running)
  simp only [add]
  split <;> exact held

theorem mem_add_dependencies (name other : String) :
    other ∈ (table.add id groups).2.dependenciesOf name ↔
      other ∈ table.dependenciesOf name ∨
        name = id ∧ other ≠ id ∧ ∃ group ∈ groups, table.holder? group = some other := by
  have known := mem_claimGroups_dependencies id groups name other [] (table.setStatus id .running)
  simp only [add]
  split <;> exact known

theorem add_statuses (other : String) :
    (table.add id groups).2.statuses.get? other =
      if other = id then
        some (if (table.add id groups).1 = [] then .alreadyRunning else .running)
      else table.statuses.get? other := by
  have stored : ∀ name,
      (claimGroups id [] groups (table.setStatus id .running)).2.statuses.get? name =
      if name = id then some .running else table.statuses.get? name := by
    intro name
    rw [claimGroups_statuses, setStatus, Table.get?_insert]
  simp only [add, List.isEmpty_iff]
  generalize claimGroups id [] groups (table.setStatus id .running) = result at stored ⊢
  obtain ⟨granted, after⟩ := result
  by_cases none : granted = []
  · simp only [if_pos none, setStatus, Table.get?_insert, stored]
    by_cases same : other = id <;> simp [same]
  · simp only [if_neg none, stored]

end Add

/-! ## Ending a request -/

theorem get?_free (id : String) (claims : Table String) (group other : String) :
    (free id claims group).get? other =
      if other = group ∧ claims.get? group = some id then none else claims.get? other := by
  simp only [free]
  by_cases own : claims.get? group = some id
  · by_cases same : other = group <;> simp [own, same, Table.get?_erase]
  · simp [own]

theorem get?_foldl_free (id : String) (groups : List String) (group : String) :
    ∀ claims : Table String,
      (groups.foldl (free id) claims).get? group =
        if group ∈ groups ∧ claims.get? group = some id then none else claims.get? group := by
  induction groups with
  | nil => intro claims; simp
  | cons first groups ih =>
    intro claims
    rw [List.foldl_cons, ih, get?_free]
    by_cases same : group = first
    · subst same
      by_cases own : claims.get? group = some id <;> simp [own]
    · simp [same]

section Finish

variable (table : ClaimTable) (id : String) (groups : List String)

theorem finish_unregistered (unknown : ¬ table.Registered id) : table.finish id groups = table :=
  if_neg unknown

theorem finish_holder? (group : String) :
    (table.finish id groups).holder? group =
      if table.Registered id ∧ group ∈ groups ∧ table.holder? group = some id then none
      else table.holder? group := by
  by_cases known : table.Registered id
  · have ended : table.finish id groups = _ := if_pos known
    simp only [ended, holder?, get?_foldl_free, known, true_and]
  · simp [finish_unregistered table id groups known, known]

theorem finish_dependenciesOf (name : String) :
    (table.finish id groups).dependenciesOf name = table.dependenciesOf name := by
  simp only [finish]
  split <;> rfl

theorem finish_statuses (other : String) :
    (table.finish id groups).statuses.get? other =
      if table.Registered id ∧ other = id then some .done else table.statuses.get? other := by
  by_cases known : table.Registered id
  · have ended : table.finish id groups = _ := if_pos known
    simp only [ended, Table.get?_insert, known, true_and]
  · simp [finish_unregistered table id groups known, known]

end Finish

end CloudAudit.ClaimTable
