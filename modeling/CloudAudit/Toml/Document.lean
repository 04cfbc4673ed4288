import CloudAudit.Toml.Quoted
import CloudAudit.Toml.Scalar
/-!
# Reading settings files

A file is a list of lines: headers, keys with values, and lines with nothing but a comment. Arrays
and tables in braces may go over several lines and nest up to a depth of eighty.
-/
set_option autoImplicit false

namespace CloudAudit.Toml

def isSpace (c : Char) : Bool :=
  c == ' ' || c == '\t'

def skipSpaces (text : List Char) : List Char :=
  text.dropWhile isSpace

def afterComment? : List Char → Option (List Char)
  | '#' :: text =>
    match text.dropWhile fun c => !isControl c with
    | [] => some []
    | rest => (lineBreak? rest).map fun _ => rest
  | text => some text

/-- What follows the end of a line: after spaces and a comment, a line break or the end. -/
def lineEnd? (text : List Char) : Option (List Char) := do
  match ← afterComment? (skipSpaces text) with
  | [] => some []
  | rest => lineBreak? rest

/-- A text without leading spaces, line breaks and comments. -/
def skipFiller : Nat → List Char → Option (List Char)
  | 0, text => some text
  | fuel + 1, text => do
    let rest ← afterComment? (skipSpaces text)
    match lineBreak? rest with
    | some rest => skipFiller fuel rest
    | none => some rest

def filled? (text : List Char) : Option (List Char) :=
  skipFiller (text.length + 1) text

def isBareKey (c : Char) : Bool :=
  c.isAlphanum || c == '_' || c == '-'

def keyPart? (text : List Char) : Option (String × List Char) :=
  match text.takeWhile isBareKey with
  | [] => (quotedLine? text).map fun (found, rest) => (.ofList found, rest)
  | name => some (.ofList name, text.dropWhile isBareKey)

def keyParts? : Nat → List Char → Option (List String × List Char)
  | 0, _ => none
  | fuel + 1, text => do
    let (part, text) ← keyPart? (skipSpaces text)
    match skipSpaces text with
    | '.' :: text =>
      let (parts, rest) ← keyParts? fuel text
      return (part :: parts, rest)
    | rest => return ([part], rest)

def pathOf? (parts : List String) : Option Path :=
  parts.getLast?.map fun key => ⟨parts.dropLast, key⟩

def path? (text : List Char) : Option (Path × List Char) := do
  let (parts, rest) ← keyParts? (text.length + 1) text
  return (← pathOf? parts, rest)

mutual

/-- A value, and what follows it. `depth` more arrays and tables may nest in it. -/
def value? : Nat → Nat → List Char → Option (Toml × List Char)
  | 0, _, _ => none
  | fuel + 1, depth, text =>
    match text with
    | '[' :: text =>
      if depth = 0 then none
      else do
        let (items, rest) ← items? fuel (depth - 1) text
        return (.array items false, rest)
    | '\x7b' :: text =>
      if depth = 0 then none
      else do
        let (entries, rest) ← braced? fuel (depth - 1) [] text
        return (.table .inline entries, rest)
    | '"' :: _ | '\'' :: _ => do
      let (found, rest) ← quoted? text
      return (.string (.ofList found), rest)
    | text => do
      let (word, rest) := leadingScalar text
      return (← scalar? word, rest)

/-- The items of an array whose opening bracket, or last comma, is behind. -/
def items? : Nat → Nat → List Char → Option (List Toml × List Char)
  | 0, _, _ => none
  | fuel + 1, depth, text => do
    match ← filled? text with
    | ']' :: rest => return ([], rest)
    | text =>
      let (item, text) ← value? fuel depth text
      match ← filled? text with
      | ',' :: text =>
        let (items, rest) ← items? fuel depth text
        return (item :: items, rest)
      | ']' :: rest => return ([item], rest)
      | _ => none

/-- The contents of a table in braces whose opening brace, or last comma, is behind, added to what
was read before. -/
def braced? : Nat → Nat → Entries → List Char → Option (Entries × List Char)
  | 0, _, _, _ => none
  | fuel + 1, depth, entries, text => do
    match ← filled? text with
    | '\x7d' :: rest => return (entries, rest)
    | text =>
      let ((path, value), text) ← keyValue? fuel depth text
      let entries ← insert entries path value
      match ← filled? text with
      | ',' :: text => braced? fuel depth entries text
      | '\x7d' :: rest => return (entries, rest)
      | _ => none

def keyValue? : Nat → Nat → List Char → Option ((Path × Toml) × List Char)
  | 0, _, _ => none
  | fuel + 1, depth, text => do
    match ← path? text with
    | (path, '=' :: text) =>
      let (value, rest) ← value? fuel depth (skipSpaces text)
      return ((path, value), rest)
    | _ => none

end

def depthLimit : Nat := 80

def line? (text : List Char) : Option ((Path × Toml) × List Char) := do
  let (line, rest) ← keyValue? (4 * text.length + 4) depthLimit text
  return (line, ← lineEnd? rest)

/-- A header on a line of its own: its path, and whether it adds to an array. -/
def header? (text : List Char) : Option ((Path × Bool) × List Char) :=
  match text with
  | '[' :: '[' :: text => do
    match ← path? text with
    | (path, ']' :: ']' :: rest) => return ((path, true), ← lineEnd? rest)
    | _ => none
  | '[' :: text => do
    match ← path? text with
    | (path, ']' :: rest) => return ((path, false), ← lineEnd? rest)
    | _ => none
  | _ => none

/-- The lines up to the next header, and the headers from there on. -/
def lines? : Nat → List Char → Option (List (Path × Toml) × List Section)
  | 0, _ => none
  | fuel + 1, text =>
    match skipSpaces text with
    | [] => some ([], [])
    | '[' :: text => do
      let ((path, ofArray), rest) ← header? ('[' :: text)
      let (lines, parts) ← lines? fuel rest
      return ([], ⟨path, ofArray, lines⟩ :: parts)
    | text =>
      match lineEnd? text with
      | some rest => lines? fuel rest
      | none => do
        let (line, rest) ← line? text
        let (lines, parts) ← lines? fuel rest
        return (line :: lines, parts)

def withoutMark : List Char → List Char
  | '\uFEFF' :: text => text
  | text => text

def ofText? (text : String) : Option Entries := do
  let text := withoutMark text.toList
  let (lines, parts) ← lines? (text.length + 1) text
  assemble lines parts

end CloudAudit.Toml
