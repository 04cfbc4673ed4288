import CloudAudit.Text.Alphanumeric
import CloudAudit.Text.Blank
/-!
# Files of environment variables

A file of lines `NAME=value`, perhaps after `export`. Values may be quoted, wholly or in parts;
outside single quotes a backslash escapes a character and a dollar sign stands for the value of a
variable. A comment starts at a `#` at the start of a line or after white space. A quoted value may
go over several lines.

Variables that are set already keep their values, so of two lines with one name the first counts;
but what a later line refers to is the variable's own value, and without one the last line's.
-/
set_option autoImplicit false

namespace CloudAudit.VariableFile

abbrev Variables := List (String × String)

/-! ## Lines -/

/-- How a line stands after some of its characters. -/
inductive Standing where
  | plain
  | afterBlank
  | escaped
  | inSingle
  | escapedInSingle
  | inDouble
  | escapedInDouble
  deriving DecidableEq, Repr

namespace Standing

def opened (c : Char) : Standing :=
  if c == '\\' then .escaped
  else if c == '"' then .inDouble
  else if c == '\'' then .inSingle
  else .plain

/-- How a line stands after one more character, unless a comment starts there. Only the character
right after a blank can start one. -/
def next? (standing : Standing) (c : Char) : Option Standing :=
  match standing with
  | .plain =>
    if Text.isBlank c && c != '\n' && c != '\x0d' then some .afterBlank else some (opened c)
  | .afterBlank => if c == '#' then none else some (opened c)
  | .escaped => some .plain
  | .inSingle =>
    if c == '\\' then some .escapedInSingle
    else if c == '\'' then some .plain else some .inSingle
  | .escapedInSingle => some .inSingle
  | .inDouble =>
    if c == '\\' then some .escapedInDouble
    else if c == '"' then some .plain else some .inDouble
  | .escapedInDouble => some .inDouble

/-- The part of a line before its comment, how the line stands after that, and whether there is a
comment. -/
def read (standing : Standing) : List Char → List Char × Standing × Bool
  | [] => ([], standing, false)
  | c :: text =>
    match standing.next? c with
    | none => ([], standing, true)
    | some standing =>
      let (before, last, commented) := read standing text
      (c :: before, last, commented)

end Standing

def rawLines : List Char → List (List Char)
  | [] => []
  | c :: text =>
    if c == '\n' then [c] :: rawLines text
    else
      match rawLines text with
      | [] => [[c]]
      | line :: lines => (c :: line) :: lines

def withoutBreak (line : List Char) : List Char :=
  match line.reverse with
  | '\n' :: '\x0d' :: before => before.reverse
  | '\n' :: before => before.reverse
  | _ => line

/-- The lines of a file, quoted line breaks being part of a line. `before` is the start of a line
that is still open. A file may not end inside a line that is open. -/
def joinLines (standing : Standing) (before : List Char) :
    List (List Char) → Option (List (List Char))
  | [] => if standing = .plain then some [] else none
  | raw :: raws =>
    let line := before ++ raw
    if (line.dropWhile Text.isBlank).head? == some '#' then joinLines .plain [] raws
    else
      match standing.read raw with
      | (kept, _, true) => (joinLines .plain [] raws).map ((before ++ kept) :: ·)
      | (_, .plain, false) => (joinLines .plain [] raws).map (withoutBreak line :: ·)
      | (_, standing, false) => joinLines standing line raws

/-! ## Values -/

inductive Reference where
  | none
  | bare
  | braced
  deriving DecidableEq, Repr

structure ValueState where
  single : Bool := false
  double : Bool := false
  escaped : Bool := false
  /-- Only a comment may follow. -/
  ended : Bool := false
  reference : Reference := .none
  name : List Char := []
  /-- The value so far, the last character first. -/
  found : List Char := []
  deriving Repr, Inhabited

/-- The value of a variable: its own, or the last one in the file. -/
def valueOf (set lines : Variables) (name : List Char) : String :=
  ((set.lookup (.ofList name)).or (lines.lookup (.ofList name))).getD ""

namespace ValueState

def push (state : ValueState) (c : Char) : ValueState :=
  { state with found := c :: state.found }

def resolve (set lines : Variables) (state : ValueState) : ValueState :=
  { state with
    name := []
    found := (valueOf set lines state.name.reverse).toList.reverse ++ state.found }

def unescape? (c : Char) : Option Char :=
  if c == '\\' || c == '\'' || c == '"' || c == '$' || c == ' ' then some c
  else if c == 'n' then some '\n'
  else none

/-- Read a character of a reference. The first character that is no part of a bare name belongs to
the value as it is. -/
def stepReference (set lines : Variables) (state : ValueState) (c : Char) : ValueState :=
  if Text.isAlphanumeric c then { state with name := c :: state.name }
  else
    match state.reference with
    | .braced =>
      if c == '\x7d' then { state.resolve set lines with reference := .none }
      else { state with name := c :: state.name }
    | _ =>
      if c == '\x7b' && state.name.isEmpty then { state with reference := .braced }
      else
        let resolved := state.resolve set lines
        if c == '$' then { resolved with reference := .bare }
        else ({ resolved with reference := .none }).push c

def stepOpen (state : ValueState) (c : Char) : ValueState :=
  if c == '\\' then { state with escaped := true }
  else if state.double then
    if c == '"' then { state with double := false } else state.push c
  else if c == '\'' then { state with single := true }
  else if c == '"' then { state with double := true }
  else if c == ' ' || c == '\t' then { state with ended := true }
  else state.push c

def read? (set lines : Variables) (state : ValueState) : List Char → Option ValueState
  | [] => some state
  | c :: text =>
    if state.ended then
      if c == ' ' || c == '\t' then read? set lines state text
      else if c == '#' then some state
      else none
    else if state.escaped then do
      let plain ← unescape? c
      read? set lines ({ state with escaped := false }.push plain) text
    else if state.single then
      read? set lines (if c == '\'' then { state with single := false } else state.push c) text
    else if state.reference ≠ .none then
      read? set lines (state.stepReference set lines c) text
    else if c == '$' then read? set lines { state with reference := .bare } text
    else read? set lines (state.stepOpen c) text

end ValueState

def value? (set lines : Variables) (text : List Char) : Option String := do
  let state ← ValueState.read? set lines {} text
  if state.single || state.double || state.reference = .braced then none
  else some (.ofList (state.resolve set lines).found.reverse)

/-! ## Definitions -/

def name? (text : List Char) : Option (String × List Char) :=
  match text with
  | [] => none
  | c :: _ =>
    if c.isAlpha || c == '_' then
      let isPart (c : Char) : Bool := c.isAlphanum || c == '_' || c == '.'
      some (.ofList (text.takeWhile isPart), (text.dropWhile isPart).dropWhile Text.isBlank)
    else none

/-- The name that a line defines, and the text of its value. A line may define `export`. -/
def definition? (text : List Char) : Option (String × List Char) := do
  let (name, rest) ← name? text
  match rest with
  | '=' :: rest => some (name, rest)
  | rest =>
    if name == "export" then
      let (name, rest) ← name? rest
      match rest with
      | '=' :: rest => some (name, rest)
      | _ => none
    else none

def isIdle (text : List Char) : Bool :=
  text.isEmpty || text.head? == some '#'

def setNew (set : Variables) (name value : String) : Variables :=
  if (set.lookup name).isSome then set else set ++ [(name, value)]

/-- Set what the lines of a file define. `lines` are the definitions so far, the last one first. -/
def defineAll? (set lines : Variables) : List (List Char) → Option Variables
  | [] => some set
  | line :: more =>
    let text := Text.strip Text.isBlank line
    if isIdle text then defineAll? set lines more
    else do
      let (name, rest) ← definition? text
      let rest := rest.dropWhile Text.isBlank
      let value ← if isIdle rest then some "" else value? set lines rest
      defineAll? (setNew set name value) ((name, value) :: lines) more

def withoutMark : List Char → List Char
  | '\uFEFF' :: text => text
  | text => text

def load? (set : Variables) (text : String) : Option Variables := do
  let lines ← joinLines .plain [] (rawLines (withoutMark text.toList))
  defineAll? set [] lines

end CloudAudit.VariableFile
