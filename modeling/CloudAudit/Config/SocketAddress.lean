import CloudAudit.Text.Blank
/-!
# Socket addresses

A host and the number of a service on it: `127.0.0.1:80` or `[fe80::1%2]:80`. Numbers of the first
kind of host are decimal without leading zeros; the groups of the second kind are hexadecimal, a run
of zero groups may be left out once, and the last two groups may be written as the first kind.

`text` is the canonical form: the longest run of two or more zero groups is left out, of equal ones
the first.
-/
set_option autoImplicit false

namespace CloudAudit

inductive SocketAddress where
  | four (octets : List Nat) (service : Nat)
  | six (groups : List Nat) (scope service : Nat)
  deriving DecidableEq, Repr, Inhabited

namespace SocketAddress

/-! ## Reading -/

def digitsIn (base : Nat) : List Char → List Nat × List Char
  | [] => ([], [])
  | c :: text =>
    match (Text.hexDigit? c).filter (· < base) with
    | some digit =>
      let (digits, rest) := digitsIn base text
      (digit :: digits, rest)
    | none => ([], c :: text)

/-- A number below `bound` at the start of a text, and what follows it. -/
def number? (base bound : Nat) (text : List Char) : Option (Nat × List Char) :=
  match digitsIn base text with
  | ([], _) => none
  | (digits, rest) =>
    if Text.valueIn base digits < bound then some (Text.valueIn base digits, rest) else none

/-- One of the four numbers of a host: up to three digits, no zero before others. -/
def octet? (text : List Char) : Option (Nat × List Char) :=
  match digitsIn 10 text with
  | (0 :: _ :: _, _) => none
  | (digits, _) => if digits.length ≤ 3 then number? 10 256 text else none

def group? (text : List Char) : Option (Nat × List Char) :=
  if (digitsIn 16 text).1.length ≤ 4 then number? 16 65536 text else none

def skip? (mark : Char) (text : List Char) : Option (List Char) :=
  Text.dropLeading? [mark] text

def octets? (text : List Char) : Option (List Nat × List Char) := do
  let (a, text) ← octet? text
  let (b, text) ← octet? (← skip? '.' text)
  let (c, text) ← octet? (← skip? '.' text)
  let (d, text) ← octet? (← skip? '.' text)
  return ([a, b, c, d], text)

structure GroupRun where
  groups : List Nat
  endsInOctets : Bool
  rest : List Char

def pairOf : List Nat → List Nat
  | [a, b, c, d] => [a * 256 + b, c * 256 + d]
  | _ => []

/-- As many groups as a text starts with, up to `room`. -/
def groupRun (first : Bool) : Nat → List Char → GroupRun
  | 0, text => ⟨[], false, text⟩
  | room + 1, text =>
    match if first then some text else skip? ':' text with
    | none => ⟨[], false, text⟩
    | some inner =>
      match if room = 0 then none else octets? inner with
      | some (octets, rest) => ⟨pairOf octets, true, rest⟩
      | none =>
        match group? inner with
        | none => ⟨[], false, text⟩
        | some (group, rest) =>
          let run := groupRun false room rest
          ⟨group :: run.groups, run.endsInOctets, run.rest⟩

/-- Eight groups, or groups with one gap that stands for at least one zero group. -/
def groups? (text : List Char) : Option (List Nat × List Char) := do
  let head := groupRun true 8 text
  if head.groups.length = 8 then some (head.groups, head.rest)
  else if head.endsInOctets then none
  else
    let rest ← skip? ':' (← skip? ':' head.rest)
    let tail := groupRun true (7 - head.groups.length) rest
    let gap := 8 - head.groups.length - tail.groups.length
    some (head.groups ++ List.replicate gap 0 ++ tail.groups, tail.rest)

/-- A scope after a percent sign; zero when there is none. -/
def scope (text : List Char) : Nat × List Char :=
  match (skip? '%' text).bind (number? 10 4294967296) with
  | some found => found
  | none => (0, text)

def service? (text : List Char) : Option Nat := do
  match ← number? 10 65536 (← skip? ':' text) with
  | (service, []) => some service
  | _ => none

def four? (text : List Char) : Option SocketAddress := do
  let (octets, text) ← octets? text
  return .four octets (← service? text)

def six? (text : List Char) : Option SocketAddress := do
  let (groups, text) ← groups? (← skip? '[' text)
  let (scope, text) := scope text
  return .six groups scope (← service? (← skip? ']' text))

def ofText? (text : String) : Option SocketAddress :=
  (four? text.toList).or (six? text.toList)

/-! ## Writing -/

def groupText (group : Nat) : List Char :=
  Nat.toDigits 16 group

def joined (groups : List Nat) : List Char :=
  List.intercalate [':'] (groups.map groupText)

/-- The longest run of zeros, as its start and length; of equal runs the first. -/
def longestZeros (groups : List Nat) : Nat × Nat :=
  let runAt (start : Nat) : Nat := ((groups.drop start).takeWhile (· == 0)).length
  (List.range groups.length).foldl
    (fun best start => if runAt start > best.2 then (start, runAt start) else best) (0, 0)

def dotted (octets : List Nat) : List Char :=
  List.intercalate ['.'] (octets.map fun octet => (toString octet).toList)

/-- Eight groups in canonical form. Groups that stand for a host of the first kind end in its four
numbers. -/
def hostText (groups : List Nat) : List Char :=
  match groups with
  | [0, 0, 0, 0, 0, 0xFFFF, high, low] =>
    "::ffff:".toList ++ dotted [high / 256, high % 256, low / 256, low % 256]
  | _ =>
    let (start, length) := longestZeros groups
    if length > 1 then
      joined (groups.take start) ++ [':', ':'] ++ joined (groups.drop (start + length))
    else joined groups

def text : SocketAddress → String
  | .four octets service => .ofList (dotted octets ++ [':'] ++ (toString service).toList)
  | .six groups scope service =>
    let suffix := if scope = 0 then [] else '%' :: (toString scope).toList
    .ofList ('[' :: hostText groups ++ suffix ++ [']', ':'] ++ (toString service).toList)

end SocketAddress

end CloudAudit
