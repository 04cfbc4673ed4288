import CloudAudit.Uuid
import CloudAudit.Proofs.Text.Numerals
/-!
# Written unique identifiers are read back

The grouped form of a `Uuid`, which nothing surrounds, stands for the same 128 bits.
-/
set_option autoImplicit false

namespace CloudAudit.Uuid

/-! ## Groups -/

theorem length_hyphenate {sizes : List Nat} {text : List Char} (nonempty : sizes ≠ [])
    (length : text.length = sizes.sum) :
    (hyphenate sizes text).length + 1 = sizes.sum + sizes.length := by
  induction sizes generalizing text with
  | nil => exact absurd rfl nonempty
  | cons size sizes ih =>
    rw [List.sum_cons] at length
    cases sizes with
    | nil =>
      rw [hyphenate, List.length_take]
      simp at length ⊢
      omega
    | cons next sizes =>
      have rest := @ih (text.drop size) (by simp) (by rw [List.length_drop]; omega)
      rw [hyphenate, List.length_append, List.length_cons, List.length_take, List.sum_cons,
        List.length_cons]
      · omega
      · simp

theorem ungroup?_hyphenate {sizes : List Nat} {text : List Char} (nonempty : sizes ≠ [])
    (length : text.length = sizes.sum) : ungroup? sizes (hyphenate sizes text) = some text := by
  induction sizes generalizing text with
  | nil => exact absurd rfl nonempty
  | cons size sizes ih =>
    rw [List.sum_cons] at length
    cases sizes with
    | nil =>
      have whole : text.length = size := by simpa using length
      simp [hyphenate, ungroup?, whole, List.take_of_length_le]
    | cons next sizes =>
      have rest := @ih (text.drop size) (by simp) (by rw [List.length_drop]; omega)
      have first : (text.take size).length = size := by
        rw [List.length_take]
        omega
      rw [hyphenate, ungroup?, List.drop_left' first]
      · simp only [rest, List.take_left' first, Option.map_some, List.take_append_drop]
      · simp
      · simp

/-! ## Digits -/

theorem hexDigit_ne {value : Nat} (small : value < 16) :
    Text.hexDigit value ≠ 'u' ∧ Text.hexDigit value ≠ '\x7b' := by
  have each : ∀ value < 16, Text.hexDigit value ≠ 'u' ∧ Text.hexDigit value ≠ '\x7b' := by decide
  exact each value small

theorem unwrap_of_digit {value : Nat} (small : value < 16) (text : List Char) :
    unwrap (Text.hexDigit value :: text) = Text.hexDigit value :: text := by
  obtain ⟨notUrn, notBrace⟩ := hexDigit_ne small
  have noPrefix : Text.dropLeading? "urn:uuid:".toList (Text.hexDigit value :: text) = none := by
    have lead : "urn:uuid:".toList = 'u' :: "rn:uuid:".toList := rfl
    rw [lead, Text.dropLeading?, if_neg]
    simpa using notUrn.symm
  rw [unwrap, noPrefix]
  exact fun _ same => absurd (List.cons.inj same).1 notBrace

variable (id : Uuid)

theorem length_digits : id.digits.length = 32 := by
  rw [digits, List.length_map, List.length_range]

theorem digit_lt {digit : Nat} (member : digit ∈ id.digits) : digit < 16 := by
  obtain ⟨place, -, rfl⟩ := List.mem_map.1 member
  exact Nat.mod_lt _ (by decide)

theorem valueIn_bits : Text.valueIn 16 id.digits = id.bits.toNat := by
  have below : id.bits.toNat < 16 ^ 32 := id.bits.isLt
  exact (Text.valueIn_digits 16 32 id.bits.toNat).trans (Nat.mod_eq_of_lt below)

theorem ofDigits?_digits : ofDigits? (id.digits.map Text.hexDigit) = some id := by
  rw [ofDigits?, if_pos, Text.mapM_hexDigit? fun _ member => id.digit_lt member, Option.map_some,
    valueIn_bits, BitVec.ofNat_toNat]
  · rfl
  · rw [List.length_map, length_digits]
    rfl

theorem unwrap_text : unwrap (hyphenate groups (id.digits.map Text.hexDigit)) =
    hyphenate groups (id.digits.map Text.hexDigit) := by
  obtain ⟨digit, more, digits⟩ : ∃ digit more, id.digits = digit :: more :=
    List.exists_cons_of_length_pos (by rw [length_digits]; decide)
  have small : digit < 16 := id.digit_lt (by rw [digits]; exact List.mem_cons_self)
  rw [digits]
  exact unwrap_of_digit small _

theorem ofText?_text : ofText? id.text = some id := by
  have length : (id.digits.map Text.hexDigit).length = groups.sum := by
    rw [List.length_map, length_digits]
    rfl
  have notPlain : ¬ (hyphenate groups (id.digits.map Text.hexDigit)).length == 32 := by
    have grouped := @length_hyphenate groups _ (by decide) length
    have sizes : groups.sum + groups.length = 37 := rfl
    rw [beq_iff_eq]
    omega
  rw [ofText?, text, String.toList_ofList, if_neg notPlain, unwrap_text,
    ungroup?_hyphenate (by decide) length, Option.bind_some, ofDigits?_digits]

end CloudAudit.Uuid
