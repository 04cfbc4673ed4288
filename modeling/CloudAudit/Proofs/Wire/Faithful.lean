import CloudAudit.Resource
import CloudAudit.Proofs.Json.Reading
import CloudAudit.Proofs.Results
import CloudAudit.Proofs.Text.Uuids
import CloudAudit.Proofs.Time.Timestamps
/-!
# Types that are read back as written

The reader is lenient and the writer is not, so not every draft of a value is what is written for
it. A type is faithful when every value that its reader can produce is read again from what is
written for that value. Lists, optional values and labels inherit this from their parts.
-/
set_option autoImplicit false

namespace CloudAudit.Wire

/-- A value that is read from what is written for it. -/
def Returns {α : Type} [Wire α] (value : α) : Prop :=
  read (write value).draft = .ok value

/-- A type whose values, once read, return, and whose texts the reader can take in. -/
class Faithful (α : Type) [Wire α] : Prop where
  bounded : ∀ value : α, (write value).Bounded
  returns : ∀ {draft : Draft} {value : α}, read draft = .ok value → Returns value

/-- A type without a value that is written like a missing one. -/
class Present (α : Type) [Wire α] : Prop where
  written : ∀ value : α, write value ≠ .null

/-! ## Single values -/

instance : Faithful String where
  bounded text := .string text
  returns _ := rfl

instance : Present String where
  written _ := nofun

instance : Faithful Instant where
  bounded time := .string time.text
  returns {draft time} found := by
    cases draft with
    | string text =>
      cases stamp : Instant.ofText? text with
      | none => simp [read, stamp] at found
      | some other =>
        simp only [read, stamp, Except.ok.injEq] at found
        subst found
        simp [Returns, write, Json.draft, read, Instant.ofText?_text (.of_ofText? stamp)]
    | _ => cases found

instance : Present Instant where
  written _ := nofun

instance : Faithful Uuid where
  bounded id := .string id.text
  returns {_ id} _ := by
    simp [Returns, write, Json.draft, read, Uuid.ofText?_text id]

instance : Present Uuid where
  written _ := nofun

/-- A type of unit values under names, each of which stands for its value. -/
theorem faithful_of_tag {α : Type} [Wire α] {tag : α → String} {named : String → Option α}
    (writes : ∀ value : α, write value = .string (tag value))
    (reads : ∀ draft, read draft = readName named draft)
    (back : ∀ value, named (tag value) = some value) : Faithful α where
  bounded value := writes value ▸ .string _
  returns {_ value} _ := by
    rw [Returns, writes, reads, Json.draft, readName, back]

/-! ## Lists and optional values -/

theorem readItems_written {α : Type} [Wire α] {values : List α}
    (each : ∀ value ∈ values, Returns value) :
    readItems (Json.draftItems (values.map write)) = .ok values := by
  induction values with
  | nil => rfl
  | cons value values ih =>
    obtain ⟨first, others⟩ := List.forall_mem_cons.1 each
    rw [List.map_cons, Json.draftItems, readItems, first, ih others]
    rfl

theorem returns_of_readItems {α : Type} [Wire α] [Faithful α] {items : List Draft}
    {values : List α} (found : readItems items = .ok values) : ∀ value ∈ values, Returns value := by
  induction items generalizing values with
  | nil =>
    cases found
    exact fun _ member => absurd member List.not_mem_nil
  | cons item items ih =>
    obtain ⟨value, first, found⟩ := Results.bind_ok_iff.1 found
    obtain ⟨others, rest, found⟩ := Results.bind_ok_iff.1 found
    cases found
    exact List.forall_mem_cons.2 ⟨Faithful.returns first, ih rest⟩

instance {α : Type} [Wire α] [Faithful α] : Faithful (List α) where
  bounded values := .array (by simp [Faithful.bounded])
  returns {draft values} found := by
    cases draft with
    | array items closed =>
      obtain ⟨same, each, found⟩ := Results.bind_ok_iff.1 found
      obtain ⟨-, -, found⟩ := Results.bind_ok_iff.1 found
      cases found
      have back := readItems_written (returns_of_readItems each)
      exact Results.bind_ok_iff.2 ⟨_, back, rfl⟩
    | _ => cases found

theorem draft_ne_null {json : Json} (present : json ≠ .null) : json.draft ≠ .null := by
  cases json with
  | null => exact absurd rfl present
  | _ => exact nofun

theorem read_some {α : Type} [Wire α] {draft : Draft} (present : draft ≠ .null) :
    (read draft : Except Fault (Option α)) = (read draft : Except Fault α).map some := by
  cases draft with
  | null => exact absurd rfl present
  | _ => rfl

instance {α : Type} [Wire α] [Faithful α] [Present α] : Faithful (Option α) where
  bounded
    | some value => Faithful.bounded value
    | none => .null
  returns {draft content} found := by
    -- the reader of an optional value looks for `null` first
    by_cases missing : draft = .null
    · subst missing
      cases found
      rfl
    · rw [read_some missing, Results.map_ok_iff] at found
      obtain ⟨value, found, rfl⟩ := found
      have back : read (write value).draft = .ok value := Faithful.returns found
      have present := draft_ne_null (Present.written value)
      exact (read_some present).trans (Results.map_ok_iff.2 ⟨value, back, rfl⟩)

/-! ## Labels -/

theorem readFields_written (entries : List (String × String)) (labels : Labels) :
    labels.readFields (Json.draftFields (entries.map fun entry => (entry.1, write entry.2))) =
      .ok (entries.foldl (fun labels entry => labels.insert entry.1 entry.2) labels) := by
  induction entries generalizing labels with
  | nil => rfl
  | cons entry entries ih => exact ih _

instance : Faithful Labels where
  bounded labels := by
    refine .object fun field member => ?_
    obtain ⟨entry, -, rfl⟩ := List.mem_map.1 member
    exact .string _
  returns {_ labels} _ := by
    have back := readFields_written labels.entries Table.empty
    have same := Table.ofList_entries labels
    rw [Table.ofList] at same
    rw [same] at back
    exact Results.bind_ok_iff.2 ⟨_, back, rfl⟩

/-! ## Texts -/

theorem ofText_render {α : Type} [Wire α] [Faithful α] {value : α} (returns : Returns value) :
    ofText (write value).render = .ok value := by
  have back : read (write value).draft = .ok value := returns
  rw [ofText, Draft.ofText_render (Faithful.bounded value)]
  simp only [back]
  rfl

theorem read_of_ofText {α : Type} [Wire α] {text : String} {value : α}
    (found : ofText text = .ok value) : read (Draft.ofText text.toList).1 = .ok value := by
  rw [ofText] at found
  dsimp only at found
  split at found
  · cases found
  · rename_i draft
    split at found
    · cases found
      exact draft
    · cases found

end CloudAudit.Wire
