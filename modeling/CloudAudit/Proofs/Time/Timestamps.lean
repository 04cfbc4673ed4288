import CloudAudit.Time.Timestamp
import CloudAudit.Proofs.Text.Numerals
import CloudAudit.Proofs.Time.Calendar
/-!
# Written timestamps are read back

An instant that is read from some text lies in the calendar, and beyond its second only in second 59
of a minute: offsets are whole minutes, and only second 60 is a leap second. The text written for
such an instant is read as that instant.
-/
set_option autoImplicit false

namespace CloudAudit

namespace Instant

/-- An instant that has a text: one of the calendar, its leap second in the last of a minute. -/
structure Proper (time : Instant) : Prop where
  supported : time.inCalendar = true
  nanos_lt : time.nanos < 2000000000
  leap : 1000000000 ≤ time.nanos → time.seconds % 60 = 59

/-! ## The parts of a text -/

theorem isBlank_of_isDigit {c : Char} (digit : c.isDigit = true) :
    Text.isBlank c = false := by
  have codes : 48 ≤ c.toNat ∧ c.toNat ≤ 57 := by
    simpa [Char.isDigit, UInt32.le_iff_toNat_le] using digit
  rw [← Bool.not_eq_true]
  simp only [Text.isBlank, Bool.or_eq_true, Bool.and_eq_true, decide_eq_true_eq, beq_iff_eq]
  omega

theorem skipBlank_cons {c : Char} (notBlank : Text.isBlank c = false) (text : List Char) :
    skipBlank (c :: text) = c :: text := by
  rw [skipBlank, List.dropWhile_cons_of_neg]
  simp [notBlank]

theorem skipBlank_numeral {numeral : List Char} (digits : Text.Numeral numeral)
    (nonempty : numeral ≠ []) (rest : List Char) :
    skipBlank (numeral ++ rest) = numeral ++ rest := by
  obtain ⟨c, numeral, rfl⟩ := List.exists_cons_of_ne_nil nonempty
  exact skipBlank_cons (isBlank_of_isDigit (digits c List.mem_cons_self)) _

theorem someDigits?_numeral {numeral rest : List Char} {most : Nat} (digits : Text.Numeral numeral)
    (nonempty : numeral ≠ []) (fits : numeral.length ≤ most) (ends : Text.EndsNumeral rest) :
    someDigits? most (numeral ++ rest) = some (Text.digitValues numeral, rest) := by
  have cutEnds : Text.EndsNumeral (rest.take (most - numeral.length)) := by
    intro c atHead
    rw [List.head?_take] at atHead
    split at atHead
    · cases atHead
    · exact ends c atHead
  rw [someDigits?, List.take_append, List.take_of_length_le fits,
    Text.leadingDigits_append digits cutEnds]
  simp [Text.digitValues, nonempty]

theorem pairNumber?_padded {value : Nat} (pair : value < 100) {rest : List Char}
    (ends : Text.EndsNumeral rest) :
    pairNumber? ((Text.padded 2 value).toList ++ rest) = some (value, rest) := by
  have digits := Text.numeral_padded 2 value
  have nonempty := Text.padded_ne_nil 2 value
  have length := @Text.length_padded 2 value (by decide) pair
  rw [pairNumber?, skipBlank_numeral digits nonempty,
    someDigits?_numeral digits nonempty (Nat.le_of_eq length) ends]
  simp [Text.valueIn_padded]

theorem mark?_cons {mark : Char} (notBlank : Text.isBlank mark = false) (text : List Char) :
    mark? mark (mark :: text) = some text := by
  rw [mark?, skipBlank_cons notBlank]
  simp

theorem year?_minus (text : List Char) :
    year? ('-' :: text) =
      (someDigits? text.length text).map fun found =>
        (-(Text.valueIn 10 found.1 : Int), found.2) := by
  simp only [year?, skipBlank_cons (c := '-') (by decide)]
  cases someDigits? text.length text <;> rfl

theorem year?_plus (text : List Char) :
    year? ('+' :: text) =
      (someDigits? text.length text).map fun found =>
        ((Text.valueIn 10 found.1 : Int), found.2) := by
  simp only [year?, skipBlank_cons (c := '+') (by decide)]
  cases someDigits? text.length text <;> rfl

theorem year?_yearText (year : Int) {rest : List Char} (ends : Text.EndsNumeral rest) :
    year? ((yearText year).toList ++ rest) = some (year, rest) := by
  have signed (value : Nat) : someDigits? ((Text.padded 4 value).toList ++ rest).length
      ((Text.padded 4 value).toList ++ rest) =
        some (Text.digitValues (Text.padded 4 value).toList, rest) := by
    refine someDigits?_numeral (Text.numeral_padded 4 value) (Text.padded_ne_nil 4 value) ?_ ends
    rw [List.length_append]
    exact Nat.le_add_right _ _
  rw [yearText]
  by_cases four : 0 ≤ year ∧ year ≤ 9999
  · have digits := Text.numeral_padded 4 year.toNat
    have nonempty := Text.padded_ne_nil 4 year.toNat
    have length := @Text.length_padded 4 year.toNat (by decide) (by omega)
    rw [if_pos four, year?, skipBlank_numeral digits nonempty]
    split
    · rename_i same
      exact absurd same (digits.append_ne nonempty (by decide) _ _)
    · rename_i same
      exact absurd same (digits.append_ne nonempty (by decide) _ _)
    · rw [someDigits?_numeral digits nonempty (Nat.le_of_eq length) ends]
      simp [Text.valueIn_padded, Int.max_eq_left four.1]
  · rw [if_neg four]
    by_cases negative : year < 0
    · have minus : (("-" ++ Text.padded 4 (-year).toNat : String)).toList ++ rest =
          '-' :: ((Text.padded 4 (-year).toNat).toList ++ rest) := by
        rw [String.toList_append]
        rfl
      rw [if_pos negative, minus, year?_minus, signed]
      simp only [Option.map_some, Text.valueIn_padded]
      rw [Int.toNat_of_nonneg (by omega), Int.neg_neg]
    · have plus : (("+" ++ Text.padded 4 year.toNat : String)).toList ++ rest =
          '+' :: ((Text.padded 4 year.toNat).toList ++ rest) := by
        rw [String.toList_append]
        rfl
      rw [if_neg negative, plus, year?_plus, signed]
      simp only [Option.map_some, Text.valueIn_padded]
      rw [Int.toNat_of_nonneg (by omega)]

theorem nanosOf_digits {digits : List Nat} (few : digits.length ≤ 9) :
    nanosOf digits = Text.valueIn 10 digits * 10 ^ (9 - digits.length) := by
  rw [nanosOf, List.take_append, List.take_of_length_le few, List.take_replicate,
    Text.valueIn_append, Text.valueIn_zeros, List.length_replicate, Nat.add_zero]
  congr 2
  omega

theorem nanosOf_lt {digits : List Nat} (decimal : ∀ digit ∈ digits, digit < 10) :
    nanosOf digits < 1000000000 := by
  have length : ((digits ++ List.replicate 9 0).take 9).length = 9 := by simp
  have below := @Text.valueIn_lt 10 ((digits ++ List.replicate 9 0).take 9) ?_
  · rw [length] at below
    exact below
  · intro digit member
    rcases List.mem_append.1 (List.mem_of_mem_take member) with isDigit | isZero
    · exact decimal digit isDigit
    · rw [List.eq_of_mem_replicate isZero]
      decide

theorem fractionNanos?_numeral {numeral rest : List Char} (digits : Text.Numeral numeral)
    (nonempty : numeral ≠ []) (ends : Text.EndsNumeral rest) :
    fractionNanos? ('.' :: (numeral ++ rest)) =
      some (nanosOf (Text.digitValues numeral), rest) := by
  rw [fractionNanos?, Text.leadingDigits_append digits ends]
  split
  · rename_i same
    exact absurd (List.map_eq_nil_iff.1 (Prod.mk.inj same).1) nonempty
  · rename_i same
    obtain ⟨rfl, rfl⟩ := Prod.mk.inj same
    rfl

theorem fractionNanos?_padded {width value : Nat} (positive : 0 < width) (few : width ≤ 9)
    (fits : value < 10 ^ width) {rest : List Char} (ends : Text.EndsNumeral rest) :
    fractionNanos? (("." ++ Text.padded width value).toList ++ rest) =
      some (value * 10 ^ (9 - width), rest) := by
  have length : (Text.digitValues (Text.padded width value).toList).length = width := by
    rw [Text.digitValues, List.length_map, Text.length_padded positive fits]
  have found := fractionNanos?_numeral (Text.numeral_padded width value)
    (Text.padded_ne_nil width value) ends
  rw [nanosOf_digits (by omega), Text.valueIn_padded, length] at found
  have point : ".".toList = ['.'] := rfl
  rw [String.toList_append, List.append_assoc, point, List.singleton_append, found]

theorem fractionNanos?_fractionText {nanos : Nat} (below : nanos < 1000000000)
    {c : Char} (notPoint : c ≠ '.') (notDigit : Text.digit? c = none) (rest : List Char) :
    fractionNanos? ((fractionText nanos).toList ++ c :: rest) = some (nanos, c :: rest) := by
  have ends := Text.EndsNumeral.of_mark rest notDigit
  rw [fractionText]
  simp only [beq_iff_eq]
  split
  · rename_i zero
    subst zero
    rw [String.toList_empty, List.nil_append, fractionNanos?]
    simpa using notPoint
  split
  · have fits : nanos / 1000000 < 10 ^ 3 := by omega
    have whole : nanos / 1000000 * 10 ^ (9 - 3) = nanos := by omega
    rw [fractionNanos?_padded (by decide) (by decide) fits ends, whole]
  split
  · have fits : nanos / 1000 < 10 ^ 6 := by omega
    have whole : nanos / 1000 * 10 ^ (9 - 6) = nanos := by omega
    rw [fractionNanos?_padded (by decide) (by decide) fits ends, whole]
  · have fits : nanos < 10 ^ 9 := by omega
    have whole : nanos * 10 ^ (9 - 9) = nanos := by omega
    rw [fractionNanos?_padded (by decide) (by decide) fits ends, whole]

/-! ## Instants that are read -/

theorem offset?_minutes {text rest : List Char} {seconds : Nat}
    (found : offset? text = some (seconds, rest)) : seconds % 60 = 0 := by
  rw [offset?.eq_def] at found
  split at found
  · obtain ⟨hours, -, found⟩ := Option.bind_eq_some_iff.1 found
    split at found
    · obtain ⟨minutes, -, found⟩ := Option.bind_eq_some_iff.1 found
      split at found
      · have parts := (Prod.mk.inj (Option.some.inj found)).1
        omega
      · cases found
    · cases found
  · cases found

theorem zone?_minutes {text rest : List Char} {offset : Int}
    (found : zone? text = some (offset, rest)) : offset % 60 = 0 := by
  rw [zone?] at found
  split at found
  · cases found
    rfl
  · cases found
    rfl
  · obtain ⟨⟨seconds, _⟩, read, found⟩ := Option.bind_eq_some_iff.1 found
    have whole := offset?_minutes read
    have value := (Prod.mk.inj (Option.some.inj found)).1
    omega
  · obtain ⟨⟨seconds, _⟩, read, found⟩ := Option.bind_eq_some_iff.1 found
    have whole := offset?_minutes read
    have value := (Prod.mk.inj (Option.some.inj found)).1
    omega
  · obtain ⟨⟨seconds, _⟩, read, found⟩ := Option.bind_eq_some_iff.1 found
    have whole := offset?_minutes read
    have value := (Prod.mk.inj (Option.some.inj found)).1
    omega
  · split at found
    · cases found
      rfl
    · cases found
  · cases found

theorem fractionNanos?_lt {text rest : List Char} {nanos : Nat}
    (found : fractionNanos? text = some (nanos, rest)) : nanos < 1000000000 := by
  rw [fractionNanos?.eq_def] at found
  split at found
  · rename_i text
    split at found
    · cases found
    · rename_i digits _ _ leading
      cases found
      refine nanosOf_lt fun digit member => ?_
      exact Text.lt_of_mem_leadingDigits (by rwa [leading])
  · cases found
    decide

theorem Proper.of_ofParts? {date : Date} {hour minute second nanos : Nat} {offset : Int}
    {time : Instant} (below : nanos < 1000000000) (minutes : offset % 60 = 0)
    (found : ofParts? date hour minute second nanos offset = some time) : time.Proper := by
  rw [ofParts?] at found
  split at found
  · rename_i parts
    simp only [Bool.and_eq_true, decide_eq_true_eq] at parts
    obtain ⟨⟨⟨⟨valid, hours⟩, ofHour⟩, seconds⟩, offsets⟩ := parts
    dsimp only at found
    split at found
    · rename_i supported
      obtain ⟨-, supported⟩ := Bool.and_eq_true_iff.1 supported
      cases found
      refine ⟨supported, ?_, fun isLeap => ?_⟩
      · dsimp only
        omega
      · dsimp only at isLeap ⊢
        obtain rfl : second = 60 := by omega
        omega
    · cases found
  · cases found

theorem Proper.of_ofText? {source : String} {time : Instant} (found : ofText? source = some time) :
    time.Proper := by
  simp only [ofText?, Option.bind_eq_bind, Option.bind_eq_some_iff] at found
  obtain ⟨_, -, _, -, _, -, _, -, _, -, _, -, _, -, _, -, _, -, _, -, _, -, fraction, nanos,
    zone, offset, found⟩ := found
  split at found
  · exact .of_ofParts? (fractionNanos?_lt nanos) (zone?_minutes offset) found
  · cases found

/-! ## Instants that are written -/

theorem ofParts?_parts {time : Instant} (proper : time.Proper) :
    ofParts? (.ofDays (time.seconds / 86400)) ((time.seconds % 86400).toNat / 3600)
      ((time.seconds % 86400).toNat / 60 % 60)
      ((time.seconds % 86400).toNat % 60 + time.nanos / 1000000000) (time.nanos % 1000000000) 0 =
        some time := by
  obtain ⟨supported, below, leap⟩ := proper
  obtain ⟨seconds, nanos⟩ := time
  dsimp only at below leap ⊢
  -- a leap second is written as second 60 and taken apart again
  have inMinute : (seconds % 86400).toNat % 60 + nanos / 1000000000 ≤ 60 := by omega
  have isLeap : ((seconds % 86400).toNat % 60 + nanos / 1000000000) / 60 = nanos / 1000000000 := by
    omega
  have clock : seconds / 86400 * 86400 + ((((seconds % 86400).toNat / 3600 : Nat) : Int) * 3600 +
      (((seconds % 86400).toNat / 60 % 60 : Nat) : Int) * 60 +
        (((seconds % 86400).toNat % 60 + nanos / 1000000000 - nanos / 1000000000 : Nat) : Int)) =
          seconds := by
    omega
  have fraction : nanos % 1000000000 + nanos / 1000000000 * 1000000000 = nanos := by omega
  rw [ofParts?, if_pos]
  · dsimp only
    rw [isLeap, Date.toDays_ofDays, clock, fraction, Int.sub_zero, supported]
    rfl
  · simp only [Date.isValid_ofDays, Bool.true_and, Bool.and_eq_true, decide_eq_true_eq]
    omega

theorem endsNumeral_fractionText (nanos : Nat) :
    Text.EndsNumeral ((fractionText nanos).toList ++ ['Z']) := by
  have point (width value : Nat) :
      Text.EndsNumeral (("." ++ Text.padded width value).toList ++ ['Z']) := by
    rw [String.toList_append, List.append_assoc]
    exact .of_mark _
  rw [fractionText]
  split
  · exact .of_mark _
  split
  · exact point _ _
  split
  · exact point _ _
  · exact point _ _

theorem toList_text (time : Instant) :
    time.text.toList =
      (yearText (Date.ofDays (time.seconds / 86400)).year).toList ++ '-' ::
        ((Text.padded 2 (Date.ofDays (time.seconds / 86400)).month).toList ++ '-' ::
        ((Text.padded 2 (Date.ofDays (time.seconds / 86400)).day).toList ++ 'T' ::
        ((Text.padded 2 ((time.seconds % 86400).toNat / 3600)).toList ++ ':' ::
        ((Text.padded 2 ((time.seconds % 86400).toNat / 60 % 60)).toList ++ ':' ::
        ((Text.padded 2 ((time.seconds % 86400).toNat % 60 + time.nanos / 1000000000)).toList ++
        ((fractionText (time.nanos % 1000000000)).toList ++ ['Z'])))))) := by
  have dash : "-".toList = ['-'] := rfl
  have letter : "T".toList = ['T'] := rfl
  have colon : ":".toList = [':'] := rfl
  have zone : "Z".toList = ['Z'] := rfl
  simp only [text, String.toList_append, List.append_assoc, dash, letter, colon, zone,
    List.cons_append, List.nil_append]

theorem ofText?_text {time : Instant} (proper : time.Proper) : ofText? time.text = some time := by
  obtain ⟨months, days⟩ := Date.pairs_ofDays (time.seconds / 86400)
  have seconds : (time.seconds % 86400).toNat % 60 + time.nanos / 1000000000 < 100 := by
    have below := proper.nanos_lt
    omega
  have zone : zone? ['Z'] = some (0, []) := rfl
  have between (text : List Char) : between? ('T' :: text) = some text := rfl
  have blank : skipBlank [] = [] := rfl
  have dash (text : List Char) : mark? '-' ('-' :: text) = some text := mark?_cons (by decide) text
  have colon (text : List Char) : mark? ':' (':' :: text) = some text := mark?_cons (by decide) text
  rw [ofText?, toList_text, year?_yearText _ (.of_mark _)]
  simp only [Option.bind_eq_bind, Option.bind_some, dash]
  rw [pairNumber?_padded months (.of_mark _)]
  simp only [Option.bind_some, dash]
  rw [pairNumber?_padded days (.of_mark _)]
  simp only [Option.bind_some, between]
  rw [pairNumber?_padded (by omega) (.of_mark _)]
  simp only [Option.bind_some, colon]
  rw [pairNumber?_padded (by omega) (.of_mark _)]
  simp only [Option.bind_some, colon]
  rw [pairNumber?_padded seconds (endsNumeral_fractionText _)]
  simp only [Option.bind_some]
  rw [fractionNanos?_fractionText (Nat.mod_lt _ (by decide)) (by decide) (by decide)]
  simp only [Option.bind_some, zone, blank, List.isEmpty_nil, if_true]
  exact ofParts?_parts proper

end Instant

end CloudAudit
