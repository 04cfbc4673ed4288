import CloudAudit.Text.Blank
/-!
# Quoted texts of settings files

Texts in double quotes know escapes, texts in single quotes know none. Three quotes enclose a text
of several lines, whose first line break is left out when it stands at the very start.
-/
set_option autoImplicit false

namespace CloudAudit.Toml

/-- Control characters, which may stand nowhere; a tab is none here. -/
def isControl (c : Char) : Bool :=
  (c.toNat < 0x20 && c != '\t') || c.toNat == 0x7F

def lineBreak? : List Char → Option (List Char)
  | '\n' :: text => some text
  | '\x0d' :: '\n' :: text => some text
  | _ => none

def coded? (count : Nat) (text : List Char) : Option (Char × List Char) := do
  if (text.take count).length != count then none
  else
    let digits ← (text.take count).mapM Text.hexDigit?
    let code := Text.valueIn 16 digits
    if code < 0xD800 ∨ (0xDFFF < code ∧ code < 0x110000) then
      some (Char.ofNat code, text.drop count)
    else none

def escape? : List Char → Option (Char × List Char)
  | [] => none
  | c :: text =>
    match c with
    | 'b' => some ('\x08', text)
    | 't' => some ('\t', text)
    | 'n' => some ('\n', text)
    | 'f' => some ('\x0c', text)
    | 'r' => some ('\x0d', text)
    | 'e' => some ('\x1b', text)
    | '"' => some ('"', text)
    | '\\' => some ('\\', text)
    | 'x' => coded? 2 text
    | 'u' => coded? 4 text
    | 'U' => coded? 8 text
    | _ => none

def basic? (fuel : Nat) (text : List Char) : Option (List Char × List Char) :=
  match fuel, text with
  | _, '"' :: rest => some ([], rest)
  | fuel + 1, '\\' :: rest => do
    let (c, rest) ← escape? rest
    let (found, rest) ← basic? fuel rest
    return (c :: found, rest)
  | fuel + 1, c :: rest =>
    if isControl c then none
    else do
      let (found, rest) ← basic? fuel rest
      return (c :: found, rest)
  | _, _ => none

def literal? : List Char → Option (List Char × List Char)
  | [] => none
  | c :: text =>
    if c == '\'' then some ([], text)
    else if isControl c then none
    else do
      let (found, rest) ← literal? text
      return (c :: found, rest)

/-- What follows a backslash at the end of a line: the text after the blanks and line breaks there,
if a line break is among the first blanks. -/
def continued? (text : List Char) : Option (List Char) := do
  let rest ← lineBreak? (text.dropWhile fun c => c == ' ' || c == '\t')
  let isFiller (c : Char) : Bool := c == ' ' || c == '\t' || c == '\n' || c == '\x0d'
  some (rest.dropWhile isFiller)

/-- The quotes at the end of a text of several lines: those that belong to the text, and what
follows the closing three. Up to two may belong to it. -/
def closing? (mark : Char) (text : List Char) : Option (List Char × List Char) :=
  let quotes := (text.takeWhile (· == mark)).length
  if quotes < 3 then none
  else some (List.replicate (min quotes 5 - 3) mark, text.drop (min quotes 5))

def manyLines? (mark : Char) (escapes : Bool) (fuel : Nat) (text : List Char) :
    Option (List Char × List Char) :=
  match fuel with
  | 0 => none
  | fuel + 1 =>
    match closing? mark text, lineBreak? text, text with
    | some found, _, _ => some found
    | none, some rest, _ => (manyLines? mark escapes fuel rest).map fun (found, rest) =>
        ('\n' :: found, rest)
    | none, none, '\\' :: rest =>
      if escapes then
        match continued? rest with
        | some rest => manyLines? mark escapes fuel rest
        | none => do
          let (c, rest) ← escape? rest
          let (found, rest) ← manyLines? mark escapes fuel rest
          return (c :: found, rest)
      else (manyLines? mark escapes fuel rest).map fun (found, rest) => ('\\' :: found, rest)
    | none, none, c :: rest =>
      if isControl c then none
      else (manyLines? mark escapes fuel rest).map fun (found, rest) => (c :: found, rest)
    | none, none, [] => none

/-- A text of several lines without the line break at its start. -/
def afterBreak (text : List Char) : List Char :=
  (lineBreak? text).getD text

def quotedLine? : List Char → Option (List Char × List Char)
  | '"' :: text => basic? text.length text
  | '\'' :: text => literal? text
  | _ => none

def quoted? : List Char → Option (List Char × List Char)
  | '"' :: '"' :: '"' :: text => manyLines? '"' true (text.length + 1) (afterBreak text)
  | '\'' :: '\'' :: '\'' :: text => manyLines? '\'' false (text.length + 1) (afterBreak text)
  | text => quotedLine? text

end CloudAudit.Toml
