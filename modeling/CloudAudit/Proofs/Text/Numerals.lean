import Mathlib.Algebra.Ring.Nat
import CloudAudit.Text.Blank
/-!
# Numbers as text

What is written for a number in decimal is read back as that number, padded or not, whatever other
than a digit follows it.
-/
set_option autoImplicit false

namespace CloudAudit.Text

/-- Decimal digits only. -/
def Numeral (text : List Char) : Prop :=
  ∀ c ∈ text, c.isDigit = true

def digitValues (numeral : List Char) : List Nat :=
  numeral.map fun c => c.toNat - '0'.toNat

/-- A text that does not go on with a decimal digit. -/
def EndsNumeral (rest : List Char) : Prop :=
  ∀ c ∈ rest.head?, digit? c = none

theorem digit?_of_isDigit {c : Char} (digit : c.isDigit = true) :
    digit? c = some (c.toNat - '0'.toNat) := by
  rw [digit?, if_pos]
  simpa [Char.isDigit, Char.le_def] using digit

theorem EndsNumeral.of_mark {c : Char} (rest : List Char)
    (notDigit : digit? c = none := by decide) : EndsNumeral (c :: rest) := by
  rintro _ ⟨⟩
  exact notDigit

/-- A text that starts with digits starts with no other character. -/
theorem Numeral.append_ne {numeral : List Char} (digits : Numeral numeral) (nonempty : numeral ≠ [])
    {c : Char} (notDigit : c.isDigit = false) (rest text : List Char) :
    numeral ++ rest ≠ c :: text := by
  obtain ⟨first, numeral, rfl⟩ := List.exists_cons_of_ne_nil nonempty
  intro same
  have isDigit := digits first List.mem_cons_self
  rw [(List.cons.inj same).1, notDigit] at isDigit
  cases isDigit

theorem digit?_lt {c : Char} {digit : Nat} (found : digit? c = some digit) : digit < 10 := by
  rw [digit?] at found
  split at found
  · rename_i between
    obtain ⟨-, upTo⟩ := between
    have code : c.toNat ≤ '9'.toNat := upTo
    have value := Option.some.inj found
    have codes : '9'.toNat = '0'.toNat + 9 := rfl
    omega
  · cases found

theorem lt_of_mem_leadingDigits {text : List Char} {digit : Nat}
    (member : digit ∈ (leadingDigits text).1) : digit < 10 := by
  induction text with
  | nil => cases member
  | cons c text ih =>
    rw [leadingDigits] at member
    split at member
    · rename_i found
      rcases List.mem_cons.1 member with rfl | later
      · exact digit?_lt found
      · exact ih later
    · cases member

theorem leadingDigits_append {numeral rest : List Char} (digits : Numeral numeral)
    (ends : EndsNumeral rest) :
    leadingDigits (numeral ++ rest) = (digitValues numeral, rest) := by
  induction numeral with
  | nil =>
    cases rest with
    | nil => rfl
    | cons c rest => simp [leadingDigits, digitValues, ends c rfl]
  | cons c numeral ih =>
    obtain ⟨first, others⟩ := List.forall_mem_cons.1 digits
    simp [leadingDigits, digitValues, digit?_of_isDigit first, ih others]

theorem valueIn_digitValues (numeral : List Char) :
    valueIn 10 (digitValues numeral) = Nat.ofDigitChars 10 numeral 0 := by
  rw [valueIn, digitValues, List.foldl_map, Nat.ofDigitChars]
  simp only [Nat.mul_comm]

theorem numeral_toDigits (value : Nat) : Numeral (Nat.toDigits 10 value) :=
  fun _ member => Nat.isDigit_of_mem_toDigits (by decide) (by decide) member

theorem valueIn_toDigits (value : Nat) :
    valueIn 10 (digitValues (Nat.toDigits 10 value)) = value := by
  rw [valueIn_digitValues, Nat.ofDigitChars_ten_toDigits]

/-- No number but zero is written with a zero at its head. -/
theorem exists_head_digitValues {value : Nat} (positive : 0 < value) :
    ∃ first more, digitValues (Nat.toDigits 10 value) = first :: more ∧ first ≠ 0 := by
  induction value using Nat.strongRecOn with
  | ind value ih =>
    by_cases single : value < 10
    · have digits : ∀ digit < 10, 0 < digit → [Nat.digitChar digit].map
          (fun c => c.toNat - '0'.toNat) = [digit] := by decide
      refine ⟨value, [], ?_, Nat.ne_of_gt positive⟩
      rw [digitValues, Nat.toDigits_of_lt_base single, digits value single positive]
    · obtain ⟨first, more, fewer, notZero⟩ := ih (value / 10) (by omega) (by omega)
      rw [digitValues] at fewer
      rw [digitValues, Nat.toDigits_of_base_le (by decide) (by omega), List.map_append, fewer]
      exact ⟨first, _, rfl, notZero⟩

/-! ## Padding -/

section

variable (width value : Nat)

theorem toList_padded :
    (padded width value).toList =
      List.replicate (width - (Nat.toDigits 10 value).length) '0' ++ Nat.toDigits 10 value := by
  rw [padded, String.toList_ofList, Nat.toString_eq_repr, Nat.toList_repr, ← String.length_toList,
    Nat.toList_repr]

theorem numeral_padded : Numeral (padded width value).toList := by
  rw [toList_padded]
  intro c member
  rcases List.mem_append.1 member with isPadding | isDigit
  · rw [List.eq_of_mem_replicate isPadding]
    rfl
  · exact numeral_toDigits value c isDigit

theorem valueIn_padded : valueIn 10 (digitValues (padded width value).toList) = value := by
  rw [valueIn_digitValues, toList_padded, Nat.ofDigitChars_append, Nat.ofDigitChars_replicate_zero,
    Nat.mul_zero, Nat.ofDigitChars_ten_toDigits]

theorem padded_ne_nil : (padded width value).toList ≠ [] := by
  rw [toList_padded]
  simp

variable {width value}

theorem length_padded (positive : 0 < width) (fits : value < 10 ^ width) :
    (padded width value).toList.length = width := by
  have short := (Nat.length_toDigits_le_iff (by decide) positive).2 fits
  rw [toList_padded, List.length_append, List.length_replicate]
  omega

end

/-! ## Places -/

section

variable (base : Nat)

theorem valueIn_append (digits more : List Nat) :
    valueIn base (digits ++ more) =
      valueIn base digits * base ^ more.length + valueIn base more := by
  have carried : ∀ start : Nat, more.foldl (fun value digit => value * base + digit) start =
      start * base ^ more.length + valueIn base more := by
    induction more with
    | nil => simp [valueIn]
    | cons digit more ih =>
      intro start
      rw [valueIn, List.foldl_cons, List.foldl_cons, ih, ih, List.length_cons, Nat.pow_succ]
      grind
  rw [valueIn, List.foldl_append, carried]
  rfl

theorem valueIn_singleton (digit : Nat) : valueIn base [digit] = digit := by
  rw [valueIn, List.foldl_cons, Nat.zero_mul, Nat.zero_add]
  rfl

theorem valueIn_zeros (count : Nat) : valueIn base (List.replicate count 0) = 0 := by
  induction count with
  | zero => rfl
  | succ count ih =>
    rw [List.replicate_succ', valueIn_append, ih, Nat.zero_mul, Nat.zero_add, valueIn_singleton]

theorem valueIn_lt {base : Nat} {digits : List Nat} (small : ∀ digit ∈ digits, digit < base) :
    valueIn base digits < base ^ digits.length := by
  induction digits with
  | nil => exact Nat.one_pos
  | cons digit digits ih =>
    obtain ⟨first, others⟩ := List.forall_mem_cons.1 small
    have below := ih others
    have upTo := Nat.mul_le_mul_right (base ^ digits.length) (Nat.succ_le_of_lt first)
    rw [← List.singleton_append, valueIn_append, valueIn_singleton, List.singleton_append,
      List.length_cons, Nat.pow_succ']
    grind

/-- The digits of a number in a base, the most significant of `count` first, have its value. -/
theorem valueIn_digits (count value : Nat) :
    valueIn base ((List.range count).map fun place => value / base ^ (count - 1 - place) % base) =
      value % base ^ count := by
  induction count with
  | zero => simp [valueIn, Nat.mod_one]
  | succ count ih =>
    have places : ((List.range count).map Nat.succ).map
          (fun place => value / base ^ (count + 1 - 1 - place) % base) =
        (List.range count).map fun place => value / base ^ (count - 1 - place) % base := by
      rw [List.map_map]
      apply List.map_congr_left
      intro place below
      have same : count + 1 - 1 - place.succ = count - 1 - place := by omega
      rw [Function.comp_apply, same]
    rw [List.range_succ_eq_map, List.map_cons, places, ← List.singleton_append, valueIn_append,
      valueIn_singleton, ih, Nat.mod_pow_succ, List.length_map, List.length_range]
    simp only [Nat.add_sub_cancel, Nat.sub_zero]
    rw [Nat.mul_comm, Nat.add_comm]

end

theorem hexDigit?_hexDigit : ∀ value < 16, hexDigit? (hexDigit value) = some value := by
  decide

theorem mapM_hexDigit? {digits : List Nat} (small : ∀ digit ∈ digits, digit < 16) :
    (digits.map hexDigit).mapM hexDigit? = some digits := by
  induction digits with
  | nil => rfl
  | cons digit digits ih =>
    obtain ⟨first, others⟩ := List.forall_mem_cons.1 small
    rw [List.map_cons, List.mapM_cons, hexDigit?_hexDigit _ first, ih others]
    rfl

end CloudAudit.Text
