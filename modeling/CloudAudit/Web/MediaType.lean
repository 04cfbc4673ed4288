import CloudAudit.Text.Blank
/-!
# Media types

The value of a `Content-Type` header: a type, a subtype, perhaps a suffix after the last `+`, and
parameters. Only a well-formed media type says that a body is JSON.
-/
set_option autoImplicit false

namespace CloudAudit.Web

def isToken (c : Char) : Bool :=
  c.isAlphanum || "!#$%&'+-.^_`|~".toList.contains c

/-- Characters inside a quoted parameter; a quote is one only as the first of them. -/
def isQuotable (c : Char) : Bool :=
  c.toNat > 31 && c.toNat != 127

structure MediaType where
  type : String
  subtype : String
  suffix : Option String
  deriving DecidableEq, Repr

namespace MediaType

inductive Place where
  /-- Before a parameter; spaces may stand here. -/
  | start
  /-- In the name of a parameter, after at least one character. -/
  | name
  /-- After the equals sign. -/
  | equals
  /-- In a value without quotes, after at least one character. -/
  | value
  /-- After the opening quote. -/
  | opened
  /-- In a quoted value, after at least one character. -/
  | quoted
  /-- After the closing quote. -/
  | closed
  deriving DecidableEq, Repr

def Place.next? (place : Place) (c : Char) : Option Place :=
  match place with
  | .start => if c == ' ' then some .start else if isToken c then some .name else none
  | .name => if c == '=' then some .equals else if isToken c then some .name else none
  | .equals => if c == '"' then some .opened else if isToken c then some .value else none
  | .value => if c == ';' then some .start else if isToken c then some .value else none
  | .opened => if isQuotable c then some .quoted else none
  | .quoted => if c == '"' then some .closed else if isQuotable c then some .quoted else none
  | .closed => if c == ';' then some .start else if c == ' ' then some .closed else none

def Place.mayEnd : Place → Bool
  | .start | .equals | .value | .closed => true
  | .name | .opened | .quoted => false

def areParameters (place : Place) : List Char → Bool
  | [] => place.mayEnd
  | c :: text =>
    match place.next? c with
    | some place => areParameters place text
    | none => false

/-- A subtype and its suffix after the last `+` that is not its first character. -/
def cutSuffix (name : List Char) : List Char × Option (List Char) :=
  match Text.cutAt '+' name.reverse with
  | some (suffix, subtype) =>
    if subtype.isEmpty then (name, none) else (subtype.reverse, some suffix.reverse)
  | none => (name, none)

/-- The type and subtype before the parameters, in lower case. -/
def ofNames? (type name : List Char) : Option MediaType :=
  if type.isEmpty || !type.all isToken || !name.all isToken then none
  else
    let (subtype, suffix) := cutSuffix (name.map Char.toLower)
    some ⟨.ofList (type.map Char.toLower), .ofList subtype, suffix.map String.ofList⟩

def ofText? (text : String) : Option MediaType := do
  let (type, rest) ← Text.cutAt '/' text.toList
  match Text.cutAt ';' rest with
  | none => ofNames? type rest
  | some (name, parameters) =>
    if name.isEmpty || !areParameters .start parameters then none else ofNames? type name

def isJson (media : MediaType) : Bool :=
  media.type == "application" && (media.subtype == "json" || media.suffix == some "json")

end MediaType

end CloudAudit.Web
