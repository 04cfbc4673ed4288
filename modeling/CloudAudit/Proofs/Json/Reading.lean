import CloudAudit.Json.Draft
import CloudAudit.Proofs.Text.Numerals
/-!
# Written JSON is read back

The reader finds in the text of a value that value again, to its last character and with fuel to
spare, as long as its numbers are not too large for a double.
-/
set_option autoImplicit false

namespace CloudAudit

/-- No number of a value has more than the digits of 64 bits. -/
inductive Json.Bounded : Json → Prop where
  | null : Bounded .null
  | bool (value : Bool) : Bounded (.bool value)
  | number {value : Int} (small : value.natAbs < 18446744073709551616) : Bounded (.number value)
  | string (value : String) : Bounded (.string value)
  | array {items : List Json} (each : ∀ item ∈ items, Bounded item) : Bounded (.array items)
  | object {fields : List (String × Json)} (each : ∀ field ∈ fields, Bounded field.2) :
    Bounded (.object fields)

namespace Draft

/-! ## Strings -/

theorem hex4?_hex4 {code : Nat} (below : code < 65536) (rest : List Char) :
    hex4? (Json.hex4 code ++ rest) = some (code, rest) := by
  have digit (value : Nat) : Text.hexDigit? (Text.hexDigit (value % 16)) = some (value % 16) :=
    Text.hexDigit?_hexDigit _ (Nat.mod_lt _ (by decide))
  have digits : Json.hex4 code ++ rest =
      Text.hexDigit (code / 4096 % 16) :: Text.hexDigit (code / 256 % 16) ::
        Text.hexDigit (code / 16 % 16) :: Text.hexDigit (code % 16) :: rest := rfl
  have value : Text.valueIn 16 [code / 4096 % 16, code / 256 % 16, code / 16 % 16, code % 16] =
      code := by
    simp only [Text.valueIn, List.foldl_cons, List.foldl_nil]
    omega
  rw [digits, hex4?]
  simp [List.mapM_cons, digit, value]

theorem ofCode_toNat {c : Char} (control : c.toNat < 0x20) : Piece.ofCode c.toNat = .char c := by
  rw [Piece.ofCode, if_neg (by omega), if_neg (by omega), Char.ofNat_toNat]

/-- The units of a text with one character before them. -/
def before (c : Char) (found : List Piece × List Char) : List Piece × List Char :=
  (.char c :: found.1, found.2)

section

variable (fuel : Nat) (text : List Char)

theorem pieces?_short {mark c : Char} (short : shortEscape? mark = some c) (notCode : mark ≠ 'u') :
    pieces? (fuel + 1) ('\\' :: mark :: text) = (pieces? fuel text).map (before c) := by
  rw [pieces?]
  · rw [short]
    cases pieces? fuel text <;> rfl
  · simpa using notCode

theorem pieces?_control {c : Char} (control : c.toNat < 0x20) :
    pieces? (fuel + 1) ('\\' :: 'u' :: (Json.hex4 c.toNat ++ text)) =
      (pieces? fuel text).map (before c) := by
  rw [pieces?, hex4?_hex4 (by omega)]
  simp only [ofCode_toNat control, Option.bind_eq_bind, Option.bind_some]
  cases pieces? fuel text <;> rfl

theorem pieces?_plain {c : Char} (notQuote : c ≠ '"') (notSlash : c ≠ '\\')
    (printable : ¬ c.toNat < 0x20) :
    pieces? (fuel + 1) (c :: text) = (pieces? fuel text).map (before c) := by
  rw [pieces?]
  · simp only [printable, notSlash, beq_iff_eq, decide_false, Bool.false_or, if_false]
    cases pieces? fuel text <;> rfl
  · simpa using notQuote
  · exact fun _ same => absurd same notSlash
  · exact fun _ _ same => absurd same notSlash

theorem pieces?_escape (c : Char) :
    pieces? (fuel + 1) (Json.escape c ++ text) = (pieces? fuel text).map (before c) := by
  rw [Json.escape]
  by_cases quote : c = '"'
  · subst quote
    exact pieces?_short fuel text rfl (by decide)
  by_cases slash : c = '\\'
  · subst slash
    exact pieces?_short fuel text rfl (by decide)
  rw [if_neg quote, if_neg slash]
  iterate 5
    split
    · subst_vars
      exact pieces?_short fuel text rfl (by decide)
  by_cases control : c.toNat < 0x20
  · rw [if_pos control]
    exact pieces?_control fuel text control
  · rw [if_neg control]
    exact pieces?_plain fuel text quote slash control

end

theorem pieces?_quoted (chars rest : List Char) {fuel : Nat} (enough : chars.length < fuel) :
    pieces? fuel (chars.flatMap Json.escape ++ '"' :: rest) = some (chars.map .char, rest) := by
  induction chars generalizing fuel with
  | nil =>
    obtain ⟨fuel, rfl⟩ := Nat.exists_eq_succ_of_ne_zero (Nat.ne_of_gt enough)
    rfl
  | cons c chars ih =>
    obtain ⟨fuel, rfl⟩ := Nat.exists_eq_succ_of_ne_zero (Nat.ne_of_gt (Nat.zero_lt_of_lt enough))
    have less : chars.length < fuel := Nat.lt_of_succ_lt_succ enough
    rw [List.flatMap_cons, List.append_assoc, pieces?_escape, ih less]
    rfl

theorem join?_chars (chars : List Char) : join? (chars.map .char) = some chars := by
  induction chars with
  | nil => rfl
  | cons c chars ih =>
    rw [List.map_cons, join?, ih]
    rfl

theorem escape_ne_nil (c : Char) : 1 ≤ (Json.escape c).length := by
  rw [Json.escape]
  repeat' split
  all_goals simp

theorem length_le_escaped (chars : List Char) :
    chars.length ≤ (chars.flatMap Json.escape).length := by
  induction chars with
  | nil => exact Nat.le_refl _
  | cons c chars ih =>
    have first := escape_ne_nil c
    rw [List.flatMap_cons, List.length_append, List.length_cons]
    omega

theorem string?_quoted (text : String) (rest : List Char) :
    string? (text.toList.flatMap Json.escape ++ '"' :: rest) = some (some text, rest) := by
  have enough := length_le_escaped text.toList
  rw [string?, pieces?_quoted, Option.map_some]
  · simp only [join?_chars, Option.map_some, String.ofList_toList]
  · rw [List.length_append, List.length_cons]
    omega

/-! ## Numbers -/

/-- A text that does not go on with a part of a number. -/
def EndsNumber (rest : List Char) : Prop :=
  ∀ c ∈ rest.head?, Text.digit? c = none ∧ c ≠ '.' ∧ c ≠ 'e' ∧ c ≠ 'E'

section

variable {rest : List Char}

theorem EndsNumber.endsNumeral (ends : EndsNumber rest) : Text.EndsNumeral rest :=
  fun c atHead => (ends c atHead).1

theorem EndsNumber.fraction? (ends : EndsNumber rest) : fraction? rest = some ([], rest) := by
  cases rest with
  | nil => rfl
  | cons c rest =>
    rw [Draft.fraction?]
    exact fun _ same => absurd (List.cons.inj same).1 (ends c rfl).2.1

theorem EndsNumber.exponent? (ends : EndsNumber rest) :
    exponent? rest = some (false, 0, rest) := by
  cases rest with
  | nil => rfl
  | cons c rest =>
    obtain ⟨-, -, notSmall, notCapital⟩ := ends c rfl
    simp [Draft.exponent?, notSmall, notCapital]

theorem toList_toString_ofNat (value : Nat) :
    (toString (Int.ofNat value)).toList = Nat.toDigits 10 value := by
  rw [Int.toString_eq_repr]
  exact Nat.toList_repr

theorem toList_toString_negSucc (value : Nat) :
    (toString (Int.negSucc value)).toList = '-' :: Nat.toDigits 10 (value + 1) := by
  rw [Int.toString_eq_repr, Int.repr, String.toList_append, Nat.toList_repr]
  rfl

theorem wholePart?_toDigits (value : Nat) (ends : EndsNumber rest) :
    wholePart? (Nat.toDigits 10 value ++ rest) =
      some (Text.digitValues (Nat.toDigits 10 value), rest) := by
  rw [wholePart?, Text.leadingDigits_append (Text.numeral_toDigits value) ends.endsNumeral]
  by_cases zero : value = 0
  · subst zero
    rfl
  · obtain ⟨first, more, digits, notZero⟩ :=
      Text.exists_head_digitValues (Nat.pos_of_ne_zero zero)
    rw [digits]
    split
    · rename_i same
      cases same
    · rename_i same
      exact absurd (List.cons.inj (Prod.mk.inj same).1).1 notZero
    · rfl

theorem isUnbounded_of_short {mantissa digits : Nat} (short : digits < 300) :
    isUnbounded mantissa digits 0 = false := by
  rw [isUnbounded]
  split
  · rfl
  · rw [if_pos (by omega)]

theorem magnitude?_toDigits {value : Nat} (small : value < 18446744073709551616)
    (negative : Bool) (ends : EndsNumber rest) :
    magnitude? negative (Nat.toDigits 10 value ++ rest) =
      some (if negative then (if value == 0 then .fraction else .whole (-value))
        else .whole value, rest) := by
  have length : (Text.digitValues (Nat.toDigits 10 value)).length < 300 := by
    have short := (Nat.length_toDigits_le_iff (b := 10) (n := value) (k := 20) (by decide)
      (by decide)).2 (by omega)
    rw [Text.digitValues, List.length_map]
    omega
  simp [magnitude?, wholePart?_toDigits value ends, ends.fraction?, ends.exponent?,
    Text.valueIn_toDigits, isUnbounded_of_short length]

theorem number?_toString {value : Int} (small : value.natAbs < 18446744073709551616)
    (ends : EndsNumber rest) :
    number? ((toString value).toList ++ rest) = some (.whole value, rest) := by
  cases value with
  | ofNat value =>
    rw [toList_toString_ofNat, number?]
    · exact magnitude?_toDigits small false ends
    · exact (Text.numeral_toDigits value).append_ne Nat.toDigits_ne_nil (by decide) rest
  | negSucc value =>
    rw [toList_toString_negSucc, List.cons_append, number?]
    exact magnitude?_toDigits small true ends

end

/-! ## Values -/

theorem EndsNumber.of_mark {c : Char} (rest : List Char)
    (mark : c = ',' ∨ c = ']' ∨ c = '\x7d' := by decide) : EndsNumber (c :: rest) := by
  rintro _ ⟨⟩
  rcases mark with rfl | rfl | rfl <;> decide

theorem skipSpace_cons {c : Char} (notSpace : isSpace c = false) (text : List Char) :
    skipSpace (c :: text) = c :: text := by
  rw [skipSpace, List.dropWhile_cons_of_neg]
  simp [notSpace]

/-- A character that the text of a number starts with. -/
def StartsNumber (c : Char) : Prop :=
  c = '-' ∨ c.isDigit = true

theorem exists_toString_cons (number : Int) :
    ∃ c text, (toString number).toList = c :: text ∧ StartsNumber c := by
  cases number with
  | ofNat number =>
    obtain ⟨c, text, digits⟩ := List.exists_cons_of_ne_nil (Nat.toDigits_ne_nil (n := number))
    refine ⟨c, text, (toList_toString_ofNat number).trans digits, .inr ?_⟩
    refine Text.numeral_toDigits number c ?_
    rw [digits]
    exact List.mem_cons_self
  | negSucc number => exact ⟨_, _, toList_toString_negSucc number, .inl rfl⟩

theorem StartsNumber.ne {c other : Char} (starts : StartsNumber c)
    (isOther : other ≠ '-' ∧ other.isDigit = false := by decide) : c ≠ other := by
  rintro rfl
  rcases starts with minus | digit
  · exact isOther.1 minus
  · exact Bool.false_ne_true (isOther.2.symm.trans digit)

/-- A character that the text of a value starts with: no space, and no closing bracket. -/
def Starts (c : Char) : Prop :=
  isSpace c = false ∧ c ≠ ']' ∧ c ≠ '\x7d'

instance (c : Char) : Decidable (Starts c) :=
  inferInstanceAs (Decidable (_ ∧ _))

theorem StartsNumber.starts {c : Char} (starts : StartsNumber c) : Starts c := by
  refine ⟨?_, starts.ne, starts.ne⟩
  simp only [isSpace, Bool.or_eq_false_iff, beq_eq_false_iff_ne]
  exact ⟨⟨⟨starts.ne, starts.ne⟩, starts.ne⟩, starts.ne⟩

theorem exists_chars_cons (json : Json) : ∃ c text, json.chars = c :: text ∧ Starts c := by
  obtain ⟨atNull, atTrue, atFalse, atString, atArray, atObject⟩ :
      Starts 'n' ∧ Starts 't' ∧ Starts 'f' ∧ Starts '"' ∧ Starts '[' ∧ Starts '\x7b' := by
    decide
  cases json with
  | null => exact ⟨_, _, rfl, atNull⟩
  | bool value =>
    cases value with
    | true => exact ⟨_, _, rfl, atTrue⟩
    | false => exact ⟨_, _, rfl, atFalse⟩
  | number number =>
    obtain ⟨c, text, chars, starts⟩ := exists_toString_cons number
    exact ⟨c, text, chars, starts.starts⟩
  | string text => exact ⟨_, _, rfl, atString⟩
  | array items => exact ⟨_, _, rfl, atArray⟩
  | object fields => exact ⟨_, _, rfl, atObject⟩

theorem length_chars_pos (json : Json) : 0 < json.chars.length := by
  obtain ⟨c, text, chars, -⟩ := exists_chars_cons json
  rw [chars]
  exact Nat.succ_pos _

/-- A value that the reader finds wherever its text stands. -/
def Reads (json : Json) : Prop :=
  ∀ fuel rest, json.chars.length ≤ fuel → EndsNumber rest →
    value fuel (json.chars ++ rest) = (json.draft, some rest)

theorem reads_number {number : Int} (small : number.natAbs < 18446744073709551616) :
    Reads (.number number) := by
  obtain ⟨c, text, chars, starts⟩ := exists_toString_cons number
  rintro (_ | fuel) rest enough ends
  · exact absurd (length_chars_pos _) (Nat.not_lt.2 enough)
  · have found := number?_toString small ends
    have whole : (Json.number number).chars = c :: text := chars
    rw [chars, List.cons_append] at found
    rw [whole, List.cons_append, value, skipSpace_cons starts.starts.1]
    -- every case but the last is for a text that starts with a mark or a letter
    split
    case h_7 =>
      rw [found]
      rfl
    all_goals
      rename_i same
      exact absurd (List.cons.inj same).1 starts.ne

theorem quote_append (text : String) (rest : List Char) :
    Json.quote text ++ rest = '"' :: (text.toList.flatMap Json.escape ++ '"' :: rest) := by
  simp [Json.quote]

theorem reads_string (text : String) : Reads (.string text) := by
  rintro (_ | fuel) rest enough -
  · cases enough
  · rw [Json.chars, quote_append, value, skipSpace_cons (by decide)]
    simp only [string?_quoted]
    rfl

theorem items_itemChars {items : List Json} (each : ∀ item ∈ items, Reads item)
    (nonempty : items ≠ []) {fuel : Nat} (enough : (Json.itemChars items).length < fuel)
    (rest : List Char) :
    Draft.items fuel (Json.itemChars items ++ ']' :: rest) =
      (Json.draftItems items, some rest) := by
  induction items generalizing fuel with
  | nil => exact absurd rfl nonempty
  | cons item items ih =>
    obtain ⟨reads, others⟩ := List.forall_mem_cons.1 each
    obtain ⟨fuel, rfl⟩ := Nat.exists_eq_succ_of_ne_zero (Nat.ne_of_gt (Nat.zero_lt_of_lt enough))
    cases items with
    | nil =>
      have length : item.chars.length ≤ fuel := Nat.le_of_lt_succ enough
      rw [Json.itemChars, Draft.items, reads _ _ length (.of_mark rest)]
      rfl
    | cons next items =>
      rw [Json.itemChars, List.length_append, List.length_cons] at enough
      have positive := length_chars_pos item
      have more := @ih others (by simp) fuel (by omega)
      rw [Json.itemChars, List.append_assoc, List.cons_append, Draft.items,
        reads _ _ (by omega) (.of_mark _)]
      simp only [skipSpace_cons (c := ',') (by decide), more]
      rfl

theorem exists_itemChars_cons {items : List Json} (nonempty : items ≠ []) :
    ∃ c text, Json.itemChars items = c :: text ∧ Starts c := by
  obtain ⟨item, items, rfl⟩ := List.exists_cons_of_ne_nil nonempty
  obtain ⟨c, text, chars, starts⟩ := exists_chars_cons item
  cases items with
  | nil => exact ⟨c, text, chars, starts⟩
  | cons next items =>
    rw [Json.itemChars, chars]
    exact ⟨c, _, rfl, starts⟩

theorem reads_array {items : List Json} (each : ∀ item ∈ items, Reads item) :
    Reads (.array items) := by
  rintro (_ | fuel) rest enough -
  · cases enough
  rw [Json.chars, List.length_cons, List.length_append] at enough
  rw [Json.chars, List.cons_append, List.append_assoc, List.singleton_append, value,
    skipSpace_cons (by decide)]
  by_cases empty : items = []
  · subst empty
    rfl
  · have found := @items_itemChars _ each empty fuel (by simp at enough; omega) rest
    obtain ⟨c, text, chars, starts⟩ := exists_itemChars_cons empty
    rw [chars, List.cons_append] at found ⊢
    simp only [skipSpace_cons starts.1]
    split
    · rename_i same
      exact absurd (List.cons.inj same).1 starts.2.1
    · rw [found]
      rfl

theorem fields_fieldChars {members : List (String × Json)}
    (each : ∀ member ∈ members, Reads member.2) (nonempty : members ≠ []) {fuel : Nat}
    (enough : (Json.fieldChars members).length < fuel) (rest : List Char) :
    fields fuel (Json.fieldChars members ++ '\x7d' :: rest) =
      (Json.draftFields members, some rest) := by
  induction members generalizing fuel with
  | nil => exact absurd rfl nonempty
  | cons member members ih =>
    obtain ⟨key, json⟩ := member
    have reads : Reads json := each _ List.mem_cons_self
    obtain ⟨fuel, rfl⟩ := Nat.exists_eq_succ_of_ne_zero (Nat.ne_of_gt (Nat.zero_lt_of_lt enough))
    cases members with
    | nil =>
      rw [Json.fieldChars, List.length_append, List.length_cons] at enough
      rw [Json.fieldChars, List.append_assoc, List.cons_append, quote_append, fields,
        skipSpace_cons (by decide)]
      simp only [string?_quoted, skipSpace_cons (c := ':') (by decide)]
      rw [reads _ _ (by omega) (.of_mark rest)]
      rfl
    | cons next members =>
      rw [Json.fieldChars, List.length_append, List.length_cons, List.length_append,
        List.length_cons] at enough
      have more := @ih (List.forall_mem_cons.1 each).2 (by simp) fuel (by omega)
      rw [Json.fieldChars, List.append_assoc, List.cons_append, List.append_assoc,
        List.cons_append, quote_append, fields, skipSpace_cons (by decide)]
      simp only [string?_quoted, skipSpace_cons (c := ':') (by decide)]
      rw [reads _ _ (by omega) (.of_mark _)]
      simp only [skipSpace_cons (c := ',') (by decide), more]
      rfl

theorem exists_fieldChars_cons {members : List (String × Json)} (nonempty : members ≠ []) :
    ∃ text, Json.fieldChars members = '"' :: text := by
  obtain ⟨member, members, rfl⟩ := List.exists_cons_of_ne_nil nonempty
  cases members <;> exact ⟨_, rfl⟩

theorem reads_object {members : List (String × Json)}
    (each : ∀ member ∈ members, Reads member.2) : Reads (.object members) := by
  rintro (_ | fuel) rest enough -
  · cases enough
  rw [Json.chars, List.length_cons, List.length_append] at enough
  rw [Json.chars, List.cons_append, List.append_assoc, List.singleton_append, value,
    skipSpace_cons (by decide)]
  by_cases empty : members = []
  · subst empty
    rfl
  · have found := @fields_fieldChars _ each empty fuel (by simp at enough; omega) rest
    obtain ⟨text, chars⟩ := exists_fieldChars_cons empty
    rw [chars, List.cons_append] at found ⊢
    simp only [skipSpace_cons (c := '"') (by decide)]
    split
    · rename_i same
      exact absurd (List.cons.inj same).1 (by decide)
    · rw [found]
      rfl

theorem reads_of_bounded {json : Json} (bounded : json.Bounded) : Reads json := by
  induction bounded with
  | null =>
    rintro (_ | fuel) rest enough -
    · cases enough
    · rfl
  | bool value =>
    rintro (_ | fuel) rest enough -
    · cases value <;> cases enough
    · cases value <;> rfl
  | number small => exact reads_number small
  | string text => exact reads_string text
  | array _ each => exact reads_array each
  | object _ each => exact reads_object each

theorem ofText_render {json : Json} (bounded : json.Bounded) :
    ofText json.render.toList = (json.draft, true) := by
  have found := reads_of_bounded bounded (2 * json.chars.length + 2) [] (by omega) nofun
  rw [List.append_nil] at found
  rw [Json.render, String.toList_ofList, ofText, found]
  rfl

end Draft

end CloudAudit
