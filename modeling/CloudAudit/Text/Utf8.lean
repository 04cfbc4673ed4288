/-!
# Text from bytes

Bytes are cut into sequences of one character each. Bytes that begin no well-formed sequence stand
for no character; each longest run of them that could have begun one counts as a single sequence.
`decode?` takes well-formed bytes only, `decodeLossy` puts U+FFFD for each ill-formed sequence.
-/
set_option autoImplicit false

namespace CloudAudit.Text.Utf8

/-- What a lead byte announces: how many bytes follow it, and the bounds of the first of them. -/
structure Announced where
  count : Nat
  low : Nat
  high : Nat

/-- What a byte announces if it leads a sequence of more than one byte. The bounds keep out
overlong forms, surrogates, and codes above U+10FFFF. -/
def announced? (lead : Nat) : Option Announced :=
  if 0xC2 ≤ lead ∧ lead ≤ 0xDF then some ⟨1, 0x80, 0xBF⟩
  else if lead = 0xE0 then some ⟨2, 0xA0, 0xBF⟩
  else if lead = 0xED then some ⟨2, 0x80, 0x9F⟩
  else if 0xE1 ≤ lead ∧ lead ≤ 0xEF then some ⟨2, 0x80, 0xBF⟩
  else if lead = 0xF0 then some ⟨3, 0x90, 0xBF⟩
  else if 0xF1 ≤ lead ∧ lead ≤ 0xF3 then some ⟨3, 0x80, 0xBF⟩
  else if lead = 0xF4 then some ⟨3, 0x80, 0x8F⟩
  else none

def leadBits (count lead : Nat) : Nat :=
  lead % Nat.pow 2 (6 - count)

/-- The code after `count` more bytes, the first of them within bounds, and what follows the bytes
that fit. -/
def continued (low high : Nat) : Nat → Nat → List UInt8 → Option Nat × List UInt8
  | 0, code, bytes => (some code, bytes)
  | _ + 1, _, [] => (none, [])
  | count + 1, code, byte :: bytes =>
    if low ≤ byte.toNat ∧ byte.toNat ≤ high then
      continued 0x80 0xBF count (code * 64 + byte.toNat % 64) bytes
    else (none, byte :: bytes)

theorem continued_length_le (low high count code : Nat) (bytes : List UInt8) :
    (continued low high count code bytes).2.length ≤ bytes.length := by
  induction count generalizing low high code bytes with
  | zero => simp [continued]
  | succ count inductionHypothesis =>
    cases bytes with
    | nil => simp [continued]
    | cons byte bytes =>
      unfold continued
      split
      · exact Nat.le_succ_of_le (inductionHypothesis 0x80 0xBF _ bytes)
      · exact Nat.le_refl _

def sequence (lead : UInt8) (bytes : List UInt8) : Option Char × List UInt8 :=
  if lead.toNat < 0x80 then (some (Char.ofNat lead.toNat), bytes)
  else
    match announced? lead.toNat with
    | none => (none, bytes)
    | some next =>
      let found := continued next.low next.high next.count (leadBits next.count lead.toNat) bytes
      (found.1.map Char.ofNat, found.2)

theorem sequence_length_le (lead : UInt8) (bytes : List UInt8) :
    (sequence lead bytes).2.length ≤ bytes.length := by
  unfold sequence
  split
  · exact Nat.le_refl _
  · split
    · exact Nat.le_refl _
    · exact continued_length_le ..

def sequences : List UInt8 → List (Option Char)
  | [] => []
  | lead :: bytes => (sequence lead bytes).1 :: sequences (sequence lead bytes).2
termination_by bytes => bytes.length
decreasing_by
  exact Nat.lt_succ_of_le (sequence_length_le lead bytes)

def decode? (bytes : List UInt8) : Option (List Char) :=
  (sequences bytes).mapM id

def decodeLossy (bytes : List UInt8) : List Char :=
  (sequences bytes).map fun found => found.getD '\uFFFD'

def encode (text : String) : List UInt8 :=
  text.toUTF8.toList

end CloudAudit.Text.Utf8
