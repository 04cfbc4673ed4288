/-!
# Tables and sets in ascending order of names

`Table α` holds values under names, one value a name, in ascending order of the names.
`NameSet` is the same for names alone. Order of insertion leaves no trace: two tables with the same
look-ups are equal.
-/
set_option autoImplicit false

namespace CloudAudit

/-- Whether the names of a list stand in strictly ascending order. -/
def Ascending {α : Type} (entries : List (String × α)) : Prop :=
  entries.Pairwise fun left right => left.1 < right.1

/-- Entries in ascending order are known by what is among them. -/
theorem Ascending.eq_of_mem_iff {α : Type} {first second : List (String × α)}
    (firstOrdered : Ascending first) (secondOrdered : Ascending second)
    (same : ∀ entry, entry ∈ first ↔ entry ∈ second) : first = second := by
  induction first generalizing second with
  | nil =>
    rw [eq_comm, List.eq_nil_iff_forall_not_mem]
    intro entry member
    exact List.not_mem_nil ((same entry).2 member)
  | cons entry entries ih =>
    cases second with
    | nil => exact absurd ((same entry).1 List.mem_cons_self) List.not_mem_nil
    | cons other others =>
      obtain ⟨later, ordered⟩ := List.pairwise_cons.1 firstOrdered
      obtain ⟨otherLater, otherOrdered⟩ := List.pairwise_cons.1 secondOrdered
      have heads : entry = other := by
        rcases List.mem_cons.1 ((same entry).1 List.mem_cons_self) with equal | isOther
        · exact equal
        · rcases List.mem_cons.1 ((same other).2 List.mem_cons_self) with equal | isEntry
          · exact equal.symm
          · exact absurd (String.lt_trans (later _ isEntry) (otherLater _ isOther))
              (String.lt_irrefl _)
      subst heads
      have tails : entries = others := by
        refine ih ordered otherOrdered fun found => ?_
        have both := same found
        rw [List.mem_cons, List.mem_cons] at both
        constructor
        · intro member
          rcases both.1 (.inr member) with rfl | member'
          · exact absurd (later _ member) (String.lt_irrefl _)
          · exact member'
        · intro member
          rcases both.2 (.inr member) with rfl | member'
          · exact absurd (otherLater _ member) (String.lt_irrefl _)
          · exact member'
      rw [tails]

/-- Values under names, in strictly ascending order of the names. -/
structure Table (α : Type) where
  entries : List (String × α)
  ascending : Ascending entries
  deriving DecidableEq

namespace Table

variable {α : Type}

instance [Repr α] : Repr (Table α) where
  reprPrec table precedence := reprPrec table.entries precedence

def empty : Table α := ⟨[], List.Pairwise.nil⟩

instance : Inhabited (Table α) := ⟨empty⟩

/-- Put a value under a name, replacing the one already there. -/
def put (name : String) (value : α) : List (String × α) → List (String × α)
  | [] => [(name, value)]
  | (other, found) :: entries =>
    if name < other then (name, value) :: (other, found) :: entries
    else if name = other then (name, value) :: entries
    else (other, found) :: put name value entries

theorem mem_put {name : String} {value : α} {entries : List (String × α)} {entry : String × α}
    (member : entry ∈ put name value entries) : entry.1 = name ∨ entry ∈ entries := by
  induction entries with
  | nil => simp_all [put]
  | cons first rest ih =>
    obtain ⟨other, found⟩ := first
    simp only [put] at member
    split at member
    · simp only [List.mem_cons] at member ⊢
      rcases member with same | member
      · exact .inl (by rw [same])
      · exact .inr member
    · split at member
      · simp only [List.mem_cons] at member ⊢
        rcases member with same | member
        · exact .inl (by rw [same])
        · exact .inr (.inr member)
      · simp only [List.mem_cons] at member ⊢
        rcases member with same | member
        · exact .inr (.inl same)
        · rcases ih member with same | member
          · exact .inl same
          · exact .inr (.inr member)

theorem ascending_put {name : String} {value : α} {entries : List (String × α)}
    (ordered : Ascending entries) : Ascending (put name value entries) := by
  induction entries with
  | nil => simp [put, Ascending]
  | cons first rest ih =>
    obtain ⟨other, found⟩ := first
    have tail := (List.pairwise_cons.1 ordered).2
    have head := (List.pairwise_cons.1 ordered).1
    simp only [put]
    split
    · rename_i below
      refine List.pairwise_cons.2 ⟨fun entry member => ?_, ordered⟩
      rcases List.mem_cons.1 member with same | member
      · rw [same]; exact below
      · exact String.lt_trans below (head entry member)
    · rename_i notBelow
      split
      · rename_i same
        subst same
        exact List.pairwise_cons.2 ⟨head, tail⟩
      · rename_i distinct
        refine List.pairwise_cons.2 ⟨fun entry member => ?_, ih tail⟩
        rcases mem_put member with same | member
        · rw [same]
          rcases Decidable.em (other < name) with above | notAbove
          · exact above
          · exact absurd (String.le_antisymm (String.not_lt.1 notAbove)
              (String.not_lt.1 notBelow)) distinct
        · exact head entry member

/-- Put a value under a name, replacing the one already there. -/
def insert (table : Table α) (name : String) (value : α) : Table α :=
  ⟨put name value table.entries, ascending_put table.ascending⟩

def get? (table : Table α) (name : String) : Option α :=
  table.entries.lookup name

def contains (table : Table α) (name : String) : Bool :=
  (table.get? name).isSome

def erase (table : Table α) (name : String) : Table α :=
  ⟨table.entries.filter fun entry => entry.1 != name, table.ascending.filter _⟩

def names (table : Table α) : List String :=
  table.entries.map (·.1)

def values (table : Table α) : List α :=
  table.entries.map (·.2)

def size (table : Table α) : Nat :=
  table.entries.length

/-- A table with the value under a name changed; a name without a value starts from `initial`. -/
def update (table : Table α) (name : String) (initial : α) (change : α → α) : Table α :=
  table.insert name (change ((table.get? name).getD initial))

theorem ascending_map {β : Type} (function : α → β) {entries : List (String × α)}
    (ordered : Ascending entries) :
    Ascending (entries.map fun entry => (entry.1, function entry.2)) := by
  unfold Ascending at *
  rw [List.pairwise_map]
  exact ordered

def map {β : Type} (table : Table α) (function : α → β) : Table β :=
  ⟨table.entries.map fun entry => (entry.1, function entry.2),
    ascending_map function table.ascending⟩

/-- Entries put in one after another, so that the last of equal names stays. -/
def ofList (entries : List (String × α)) : Table α :=
  entries.foldl (fun table entry => table.insert entry.1 entry.2) empty

/-! ## Look-ups -/

@[simp] theorem get?_empty (name : String) : (empty : Table α).get? name = none := rfl

theorem lookup_entry (key : String) (value : α) (entries : List (String × α)) (name : String) :
    ((key, value) :: entries).lookup name =
      if name = key then some value else entries.lookup name := by
  by_cases same : name = key
  · simp [same]
  · have differs : (name == key) = false := beq_eq_false_iff_ne.2 same
    simp [List.lookup_cons, differs, same]

theorem lookup_put (name : String) (value : α) (entries : List (String × α)) (other : String) :
    (put name value entries).lookup other =
      if other = name then some value else entries.lookup other := by
  induction entries with
  | nil => rw [put, lookup_entry]
  | cons first rest ih =>
    obtain ⟨key, found⟩ := first
    simp only [put]
    split
    · rw [lookup_entry]
    · split
      · rename_i same
        subst same
        simp only [lookup_entry]
        split <;> rfl
      · rename_i distinct
        rw [lookup_entry, lookup_entry, ih]
        by_cases atKey : other = key
        · have notName : other ≠ name := fun same => distinct (same.symm.trans atKey)
          rw [if_pos atKey, if_neg notName, if_pos atKey]
        · rw [if_neg atKey, if_neg atKey]

theorem get?_insert (table : Table α) (name : String) (value : α) (other : String) :
    (table.insert name value).get? other =
      if other = name then some value else table.get? other :=
  lookup_put name value table.entries other

@[simp] theorem get?_insert_self (table : Table α) (name : String) (value : α) :
    (table.insert name value).get? name = some value := by
  rw [get?_insert, if_pos rfl]

theorem get?_insert_of_ne (table : Table α) {name other : String} (value : α)
    (distinct : other ≠ name) : (table.insert name value).get? other = table.get? other := by
  rw [get?_insert, if_neg distinct]

theorem get?_erase (table : Table α) (name other : String) :
    (table.erase name).get? other = if other = name then none else table.get? other := by
  obtain ⟨entries, ordered⟩ := table
  simp only [get?, erase]
  clear ordered
  induction entries with
  | nil => simp
  | cons first rest ih =>
    obtain ⟨key, found⟩ := first
    rw [lookup_entry]
    by_cases dropped : key = name
    · subst dropped
      rw [List.filter_cons_of_neg (by simp), ih]
      by_cases same : other = key <;> simp [same]
    · rw [List.filter_cons_of_pos (by simpa using dropped), lookup_entry, ih]
      by_cases same : other = key
      · subst same
        simp [dropped]
      · simp [same]

theorem get?_update (table : Table α) (name : String) (initial : α) (change : α → α)
    (other : String) :
    (table.update name initial change).get? other =
      if other = name then some (change ((table.get? name).getD initial))
      else table.get? other :=
  get?_insert table name _ other

theorem get?_map {β : Type} (table : Table α) (function : α → β) (name : String) :
    (table.map function).get? name = (table.get? name).map function := by
  obtain ⟨entries, ordered⟩ := table
  simp only [get?, map]
  clear ordered
  induction entries with
  | nil => rfl
  | cons first rest ih =>
    obtain ⟨key, found⟩ := first
    rw [List.map_cons, lookup_entry, lookup_entry, ih]
    split <;> rfl

theorem get?_foldl_insert (entries : List (String × α)) (table : Table α) (name : String) :
    (entries.foldl (fun table entry => table.insert entry.1 entry.2) table).get? name =
      (entries.reverse.lookup name).or (table.get? name) := by
  induction entries generalizing table with
  | nil => rfl
  | cons first rest ih =>
    obtain ⟨key, value⟩ := first
    rw [List.foldl_cons, ih, get?_insert, List.reverse_cons, List.lookup_append, lookup_entry]
    cases rest.reverse.lookup name with
    | some found => rfl
    | none =>
      by_cases same : name = key
      · rw [if_pos same, if_pos same]
        rfl
      · rw [if_neg same, if_neg same]
        rfl

theorem get?_ofList (entries : List (String × α)) (name : String) :
    (ofList entries).get? name = entries.reverse.lookup name := by
  rw [ofList, get?_foldl_insert, get?_empty, Option.or_none]

theorem lookup_map (names : List String) (valueOf : String → α) (name : String) :
    (names.map fun key => (key, valueOf key)).lookup name =
      if name ∈ names then some (valueOf name) else none := by
  induction names with
  | nil => rfl
  | cons key names ih =>
    rw [List.map_cons, lookup_entry, ih]
    by_cases same : name = key <;> simp [same]

theorem get?_ofList_map (names : List String) (valueOf : String → α) (name : String) :
    (ofList (names.map fun key => (key, valueOf key))).get? name =
      if name ∈ names then some (valueOf name) else none := by
  rw [get?_ofList, ← List.map_reverse, lookup_map]
  simp only [List.mem_reverse]

theorem get?_ofList_alike (names : List String) (value : α) (name : String) :
    (ofList (names.map fun key => (key, value))).get? name =
      if name ∈ names then some value else none :=
  get?_ofList_map names (fun _ => value) name

theorem contains_iff (table : Table α) (name : String) :
    table.contains name = true ↔ ∃ value, table.get? name = some value := by
  rw [contains, Option.isSome_iff_exists]

theorem mem_names_iff (table : Table α) (name : String) :
    name ∈ table.names ↔ table.contains name = true := by
  obtain ⟨entries, ordered⟩ := table
  simp only [names, contains, get?]
  clear ordered
  induction entries with
  | nil => simp
  | cons first rest ih =>
    obtain ⟨key, found⟩ := first
    rw [lookup_entry, List.map_cons, List.mem_cons, ih]
    by_cases same : name = key <;> simp [same]

/-- Where no name stands twice, a look-up finds what is there. -/
theorem lookup_eq_some_iff {entries : List (String × α)}
    (distinct : entries.Pairwise fun left right => left.1 ≠ right.1) (name : String) (value : α) :
    entries.lookup name = some value ↔ (name, value) ∈ entries := by
  induction entries with
  | nil => simp
  | cons first rest ih =>
    obtain ⟨key, found⟩ := first
    obtain ⟨others, distinct⟩ := List.pairwise_cons.1 distinct
    rw [lookup_entry, List.mem_cons, Prod.mk.injEq]
    by_cases same : name = key
    · subst same
      have once : (name, value) ∉ rest := fun member => others _ member rfl
      simp [once, eq_comm]
    · simp [same, ih distinct]

theorem distinct_entries (table : Table α) :
    table.entries.Pairwise fun left right => left.1 ≠ right.1 :=
  table.ascending.imp String.ne_of_lt

theorem get?_eq_some_iff (table : Table α) (name : String) (value : α) :
    table.get? name = some value ↔ (name, value) ∈ table.entries :=
  lookup_eq_some_iff table.distinct_entries name value

/-- Tables with the same look-ups are equal. -/
theorem ext_get? {first second : Table α} (same : ∀ name, first.get? name = second.get? name) :
    first = second := by
  have entries : first.entries = second.entries := by
    refine first.ascending.eq_of_mem_iff second.ascending fun entry => ?_
    rw [← get?_eq_some_iff, ← get?_eq_some_iff, same]
  cases first
  cases second
  subst entries
  rfl

/-- The entries of a table, put in one after another, make it up again. -/
theorem ofList_entries (table : Table α) : ofList table.entries = table := by
  refine ext_get? fun name => Option.ext fun value => ?_
  have distinct : table.entries.reverse.Pairwise fun left right => left.1 ≠ right.1 :=
    List.pairwise_reverse.2 (table.distinct_entries.imp Ne.symm)
  rw [get?_ofList, lookup_eq_some_iff distinct, List.mem_reverse, get?_eq_some_iff]

theorem mem_values_iff (table : Table α) (value : α) :
    value ∈ table.values ↔ ∃ name, table.get? name = some value := by
  simp [values, get?_eq_some_iff]

/-! ## Names -/

theorem ascending_names (table : Table α) :
    table.names.Pairwise fun first second => first < second :=
  List.pairwise_map.2 table.ascending

theorem nodup_names (table : Table α) : table.names.Nodup :=
  table.ascending_names.imp String.ne_of_lt

theorem names_empty : (empty : Table α).names = [] :=
  rfl

theorem names_map {β : Type} (table : Table α) (function : α → β) :
    (table.map function).names = table.names := by
  simp [names, map]

theorem mem_names_update (table : Table α) (name : String) (initial : α)
    (change : α → α) (other : String) :
    other ∈ (table.update name initial change).names ↔ other = name ∨ other ∈ table.names := by
  rw [mem_names_iff, mem_names_iff, contains, contains, get?_update]
  split <;> simp_all

theorem mem_names_ofList_alike (names : List String) (value : α) (name : String) :
    name ∈ (ofList (names.map fun key => (key, value))).names ↔ name ∈ names := by
  rw [mem_names_iff, contains, get?_ofList_alike]
  split <;> simp_all

/-- Tables over the same names have them in the same order. -/
theorem names_eq_of_mem_iff {β : Type} {first : Table α} {second : Table β}
    (same : ∀ name, name ∈ first.names ↔ name ∈ second.names) : first.names = second.names := by
  have blank : first.map (fun _ => ()) = second.map fun _ => () := by
    refine Table.ext_get? fun name => ?_
    have both := same name
    rw [mem_names_iff, mem_names_iff, contains, contains] at both
    rw [get?_map, get?_map]
    cases inFirst : first.get? name <;> cases inSecond : second.get? name <;> simp_all
  rw [← names_map first fun _ => (), blank, names_map]

end Table

/-- Names in strictly ascending order, each once. -/
abbrev NameSet := Table Unit

namespace NameSet

def add (set : NameSet) (name : String) : NameSet :=
  set.insert name ()

def ofNames (names : List String) : NameSet :=
  names.foldl add Table.empty

theorem mem_names_add (set : NameSet) (name other : String) :
    other ∈ (set.add name).names ↔ other = name ∨ other ∈ set.names := by
  simp only [Table.mem_names_iff, Table.contains, add, Table.get?_insert]
  by_cases same : other = name <;> simp [same]

theorem mem_names_ofNames (names : List String) (name : String) :
    name ∈ (ofNames names).names ↔ name ∈ names := by
  have alike : ofNames names = Table.ofList (names.map fun name => (name, ())) := by
    rw [Table.ofList, List.foldl_map]
    rfl
  rw [alike, Table.mem_names_ofList_alike]

end NameSet

end CloudAudit
