import CloudAudit.Proofs.Wire.Faithful
/-!
# Records that are read back as written

A reader of the fields of a record takes them one after another. Each step of it is matched by a
column of the record and by what is written under its name, so that a record returns when the values
of its fields do.
-/
set_option autoImplicit false

namespace CloudAudit.Wire

/-- What is written for the fields of a record: under the name of each column a value that it
takes. -/
inductive Fills : List Column → List (String × Json) → Prop where
  | nil : Fills [] []
  | cons {column : Column} {columns : List Column} {json : Json} {members : List (String × Json)}
    (accepted : column.accepts json.draft = .ok ()) (rest : Fills columns members) :
    Fills (column :: columns) ((column.name, json) :: members)

def drafted (members : List (String × Json)) : Fields :=
  members.map fun member => (member.1, member.2.draft)

section

variable {columns : List Column} {members : List (String × Json)}

theorem Fills.names (fills : Fills columns members) :
    members.map Prod.fst = columns.map Column.name := by
  induction fills with
  | nil => rfl
  | cons _ _ ih => rw [List.map_cons, List.map_cons, ih]

theorem Fills.exists_column (fills : Fills columns members)
    (distinct : (columns.map Column.name).Nodup) {member : String × Json}
    (inside : member ∈ members) :
    ∃ column, column? columns member.1 = some column ∧ column.accepts member.2.draft = .ok () := by
  induction fills with
  | nil => cases inside
  | @cons column columns json members accepted rest ih =>
    obtain ⟨fresh, distinct⟩ := List.nodup_cons.1 distinct
    rcases List.mem_cons.1 inside with rfl | inside
    · exact ⟨column, List.find?_cons_of_pos (by simp), accepted⟩
    · obtain ⟨other, isColumn, accepted⟩ := ih distinct inside
      refine ⟨other, ?_, accepted⟩
      have name : member.1 ∈ columns.map Column.name := by
        rw [← rest.names]
        exact List.mem_map_of_mem inside
      rw [column?, List.find?_cons_of_neg]
      · exact isColumn
      · intro same
        exact fresh ((beq_iff_eq.1 same).symm ▸ name)

theorem objectFields_written {strict : Bool}
    (known : ∀ member ∈ members,
      ∃ column, column? columns member.1 = some column ∧ column.accepts member.2.draft = .ok ())
    (distinct : (members.map Prod.fst).Nodup) {seen : Fields}
    (fresh : ∀ member ∈ members, ∀ field ∈ seen, field.1 ≠ member.1) :
    objectFields strict columns seen (Json.draftFields members) =
      .ok (seen.reverse ++ drafted members) := by
  -- `seen` grows with each field, so the names still to come must be new to it
  induction members generalizing seen with
  | nil => rw [drafted, List.map_nil, List.append_nil]; rfl
  | cons member members ih =>
    obtain ⟨name, json⟩ := member
    obtain ⟨⟨column, isColumn, accepted⟩, others⟩ := List.forall_mem_cons.1 known
    obtain ⟨notSeen, othersNotSeen⟩ := List.forall_mem_cons.1 fresh
    obtain ⟨once, distinct⟩ := List.nodup_cons.1 distinct
    have new : ¬ (seen.any fun field => field.1 == name) = true := by
      rw [List.any_eq_true]
      rintro ⟨field, inSeen, same⟩
      exact notSeen field inSeen (beq_iff_eq.1 same)
    rw [Json.draftFields, objectFields, isColumn]
    simp only [if_neg new, accepted]
    rw [ih others distinct]
    · simp [drafted]
    · intro other inside field member
      rcases List.mem_cons.1 member with rfl | before
      · exact fun same => once (List.mem_map.2 ⟨other, inside, same.symm⟩)
      · exact othersNotSeen other inside field before

theorem recordFields_written (strict : Bool) (fills : Fills columns members)
    (distinct : (columns.map Column.name).Nodup) :
    recordFields strict columns (Json.object members).draft = .ok (drafted members) := by
  have names := fills.names
  have fieldsRead := @objectFields_written columns members strict
    (fun _ inside => fills.exists_column distinct inside) (names ▸ distinct) []
    (fun _ _ _ inNothing => absurd inNothing List.not_mem_nil)
  have present : allPresent columns (drafted members) = true := by
    rw [allPresent, List.all_eq_true]
    intro column isColumn
    rw [Bool.or_eq_true]
    right
    have named : column.name ∈ members.map Prod.fst := names ▸ List.mem_map_of_mem isColumn
    obtain ⟨member, inside, same⟩ := List.mem_map.1 named
    refine List.any_eq_true.2 ⟨_, List.mem_map_of_mem inside, ?_⟩
    rw [beq_iff_eq]
    exact same
  refine Results.bind_ok_iff.2 ⟨_, fieldsRead, Results.bind_ok_iff.2 ⟨(), rfl, ?_⟩⟩
  rw [List.reverse_nil, List.nil_append, if_pos present]
  rfl

end

theorem lookup_drafted {members : List (String × Json)} (distinct : (members.map Prod.fst).Nodup)
    {member : String × Json} (inside : member ∈ members) :
    (drafted members).lookup member.1 = some member.2.draft := by
  have apart : (drafted members).Pairwise fun left right => left.1 ≠ right.1 :=
    List.pairwise_map.2 (List.pairwise_map.1 distinct)
  exact (Table.lookup_eq_some_iff apart _ _).2 (List.mem_map_of_mem inside)

/-! ## Readers of fields -/

/-- What is written under the names of some columns fits them, and a reader of fields takes it for a
given value, whatever other fields there are. -/
structure Restores {β : Type} (reader : Fields → Except Fault β) (result : β)
    (columns : List Column) (members : List (String × Json)) : Prop where
  fills : Fills columns members
  reads : ∀ {fields : Fields},
    (∀ member ∈ members, fields.lookup member.1 = some member.2.draft) → reader fields = .ok result

section

variable {α β : Type} {result : β} {columns : List Column} {members : List (String × Json)}

theorem Restores.done {outcome : Except Fault β} (finished : outcome = .ok result) :
    Restores (fun _ => outcome) result [] [] :=
  ⟨.nil, fun _ => finished⟩

/-- One more column, and a reader that takes its value before it goes on. -/
theorem Restores.cons {reader : α → Fields → Except Fault β} {first : Fields → Except Fault α}
    {take : Draft → Except Fault α} {value : α} {json : Json} (column : Column)
    (accepts : ∀ draft, column.accepts draft = (take draft).map fun _ => ())
    (looksUp : ∀ {fields draft}, fields.lookup column.name = some draft → first fields = take draft)
    (returns : take json.draft = .ok value)
    (rest : Restores (reader value) result columns members) :
    Restores (fun fields => first fields >>= fun value => reader value fields) result
      (column :: columns) ((column.name, json) :: members) where
  fills := by
    refine .cons ?_ rest.fills
    rw [accepts, returns]
    rfl
  reads := by
    intro fields each
    obtain ⟨inColumn, others⟩ := List.forall_mem_cons.1 each
    exact Results.bind_ok_iff.2 ⟨value, (looksUp inColumn).trans returns, rest.reads others⟩

/-- A record is read from what is written for it when the reader of its fields is. -/
theorem Restores.record {strict : Bool} {reader : Fields → Except Fault β}
    (restores : Restores reader result columns members)
    (distinct : (columns.map Column.name).Nodup) :
    recordFields strict columns (Json.object members).draft >>= reader = .ok result := by
  have names := restores.fills.names ▸ distinct
  exact Results.bind_ok_iff.2 ⟨_, recordFields_written strict restores.fills distinct,
    restores.reads fun _ inside => lookup_drafted names inside⟩

variable [Wire α] {fields : Fields} {name : String}

theorem field_of_lookup {draft : Draft} (isField : fields.lookup name = some draft) :
    (field fields name : Except Fault α) = read draft := by
  rw [field, isField]

theorem fieldOr_of_lookup {draft : Draft} (default : α)
    (isField : fields.lookup name = some draft) :
    fieldOr fields name default = read draft := by
  rw [fieldOr, isField]

variable [Faithful α] {next : α → Except Fault β}

/-- A field that was read has a value that returns, and what is written for it is looked up under
the same name. -/
theorem restores_field (found : field fields name >>= next = .ok result) :
    ∃ value : α, next value = .ok result ∧
      ∀ {reader : α → Fields → Except Fault β} {columns : List Column}
        {members : List (String × Json)}, Restores (reader value) result columns members →
        Restores (fun fields => field fields name >>= fun value => reader value fields) result
          (needed α name :: columns) ((name, write value) :: members) := by
  obtain ⟨value, isField, found⟩ := Results.bind_ok_iff.1 found
  have returns : Returns value := by
    rw [field] at isField
    split at isField
    · exact Faithful.returns isField
    · cases isField
  exact ⟨value, found, .cons (needed α name) (fun _ => rfl) field_of_lookup returns⟩

theorem restores_fieldOr {default : α} (found : fieldOr fields name default >>= next = .ok result)
    (returnsDefault : Returns default) :
    ∃ value : α, next value = .ok result ∧
      ∀ {reader : α → Fields → Except Fault β} {columns : List Column}
        {members : List (String × Json)}, Restores (reader value) result columns members →
        Restores (fun fields => fieldOr fields name default >>= fun value => reader value fields)
          result (optional α name :: columns) ((name, write value) :: members) := by
  obtain ⟨value, isField, found⟩ := Results.bind_ok_iff.1 found
  have returns : Returns value := by
    rw [fieldOr] at isField
    split at isField
    · exact Faithful.returns isField
    · cases isField
      exact returnsDefault
  exact ⟨value, found, .cons (optional α name) (fun _ => rfl) (fieldOr_of_lookup default) returns⟩

end

end CloudAudit.Wire
