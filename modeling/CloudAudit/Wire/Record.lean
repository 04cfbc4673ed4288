import CloudAudit.Json.Draft
import CloudAudit.Time.Timestamp
import CloudAudit.Uuid
/-!
# Typed values in JSON

`Wire α` gives the values of a type their JSON form. `write` is that form; `read` takes a drafted
text and names the first fault in it: the text stops being JSON (`malformed`), or it is JSON of
another shape (`mistyped`). Whatever stands first in the text decides.

A record is an object with its fields in any order, or an array of them in their own order. Fields
with a default may be missing, unknown fields are skipped, a repeated field is a fault.
-/
set_option autoImplicit false

namespace CloudAudit

inductive Fault where
  /-- The text is not JSON. -/
  | malformed
  /-- The text is JSON so far, but not of this type. -/
  | mistyped
  deriving DecidableEq, Repr

/-- Types with a JSON form. -/
class Wire (α : Type) where
  write : α → Json
  read : Draft → Except Fault α

export Wire (write read)

namespace Draft

/-- The fault of a value where another type is expected: a scalar has to be read before its type
shows, a bracket shows at once. -/
def mismatch : Draft → Fault
  | .broken | .unpaired | .unbounded => .malformed
  | _ => .mistyped

end Draft

namespace Wire

/-- The fault at the end of a sequence or an object that was not closed. -/
def ending (closed : Bool) : Except Fault Unit :=
  if closed then .ok () else .error .malformed

instance : Wire String where
  write text := .string text
  read
    | .string text => .ok text
    | other => .error other.mismatch

def readBelow (bound : Nat) : Draft → Except Fault Nat
  | .whole value => if 0 ≤ value ∧ value < bound then .ok value.toNat else .error .mistyped
  | other => .error other.mismatch

def readItems {α : Type} [Wire α] : List Draft → Except Fault (List α)
  | [] => .ok []
  | item :: items => do
    let value ← read item
    let values ← readItems items
    return value :: values

instance {α : Type} [Wire α] : Wire (List α) where
  write values := .array (values.map write)
  read
    | .array items closed => do
      let values ← readItems items
      ending closed
      return values
    | other => .error other.mismatch

instance {α : Type} [Wire α] : Wire (Option α) where
  write
    | some value => write value
    | none => .null
  read
    | .null => .ok none
    | other => (read other).map some

/-- The name of a unit value: a string, or an object whose one field has that name and holds
null. -/
def readName {α : Type} (named : String → Option α) : Draft → Except Fault α
  | .string name =>
    match named name with
    | some value => .ok value
    | none => .error .mistyped
  | .object fields closed =>
    match fields with
    | [] => .error .malformed
    | (none, _) :: _ => .error .malformed
    | (some name, content) :: more =>
      match named name with
      | none => .error .mistyped
      | some value =>
        match content with
        | .null => if closed && more.isEmpty then .ok value else .error .malformed
        | other => .error other.mismatch
  | _ => .error .malformed

abbrev Fields := List (String × Draft)

/-- A field of a record: its name, whether it may be missing, and which values it takes. -/
structure Column where
  name : String
  mayMiss : Bool
  accepts : Draft → Except Fault Unit

def needed (α : Type) [Wire α] (name : String) : Column :=
  ⟨name, false, fun value => (read value : Except Fault α).map fun _ => ()⟩

def optional (α : Type) [Wire α] (name : String) : Column :=
  ⟨name, true, fun value => (read value : Except Fault α).map fun _ => ()⟩

def column? (columns : List Column) (name : String) : Option Column :=
  columns.find? fun column => column.name == name

/-- The known fields of an object in the order of the text, with the first fault among them.
`strict` refuses unknown fields. -/
def objectFields (strict : Bool) (columns : List Column) (seen : Fields) :
    List (Option String × Draft) → Except Fault Fields
  | [] => .ok seen.reverse
  | (none, _) :: _ => .error .malformed
  | (some name, value) :: fields =>
    match column? columns name with
    | none =>
      if strict then .error .mistyped
      else if value.complete then objectFields strict columns seen fields
      else .error .malformed
    | some column =>
      if seen.any fun field => field.1 == name then .error .mistyped
      else
        match column.accepts value with
        | .ok () => objectFields strict columns ((name, value) :: seen) fields
        | .error fault => .error fault

/-- The fields of a record written as an array, its columns being matched in order. -/
def arrayFields : List Column → List Draft → Bool → Except Fault Fields
  | [], [], closed => (ending closed).map fun _ => []
  | [], _ :: _, _ => .error .malformed
  | column :: columns, [], closed => do
    ending closed
    if column.mayMiss then arrayFields columns [] closed else .error .mistyped
  | column :: columns, value :: values, closed => do
    column.accepts value
    let fields ← arrayFields columns values closed
    return (column.name, value) :: fields

def allPresent (columns : List Column) (fields : Fields) : Bool :=
  columns.all fun column => column.mayMiss || fields.any fun field => field.1 == column.name

/-- The fields of a record in either form, with the first fault in the text. -/
def recordFields (strict : Bool) (columns : List Column) : Draft → Except Fault Fields
  | .object fields closed => do
    let found ← objectFields strict columns [] fields
    ending closed
    if allPresent columns found then return found else .error .mistyped
  | .array values closed => arrayFields columns values closed
  | other => .error other.mismatch

def field {α : Type} [Wire α] (fields : Fields) (name : String) : Except Fault α :=
  match fields.lookup name with
  | some value => read value
  | none => .error .mistyped

def fieldOr {α : Type} [Wire α] (fields : Fields) (name : String) (default : α) :
    Except Fault α :=
  match fields.lookup name with
  | some value => read value
  | none => .ok default

instance : Wire Instant where
  write time := .string time.text
  read
    | .string text =>
      match Instant.ofText? text with
      | some time => .ok time
      | none => .error .mistyped
    | other => .error other.mismatch

instance : Wire Uuid where
  write id := .string id.text
  read
    | .string text =>
      match Uuid.ofText? text with
      | some id => .ok id
      | none => .error .mistyped
    | other => .error other.mismatch

def countColumn (name : String) (bound : Nat) : Column :=
  ⟨name, false, fun value => (readBelow bound value).map fun _ => ()⟩

def countField (fields : Fields) (name : String) (bound : Nat) : Except Fault Nat :=
  match fields.lookup name with
  | some value => readBelow bound value
  | none => .error .mistyped

instance : Wire Duration where
  write length := .object [("secs", .number length.seconds), ("nanos", .number length.nanos)]
  read draft := do
    let fields ← recordFields true
      [countColumn "secs" 18446744073709551616, countColumn "nanos" 4294967296] draft
    let seconds ← countField fields "secs" 18446744073709551616
    let nanos ← countField fields "nanos" 4294967296
    match Duration.make? seconds nanos with
    | some length => .ok length
    | none => .error .mistyped

def ofText {α : Type} [Wire α] (text : String) : Except Fault α :=
  let (draft, finished) := Draft.ofText text.toList
  match read draft with
  | .error fault => .error fault
  | .ok value => if finished then .ok value else .error .malformed

end Wire

end CloudAudit
