import CloudAudit.Pattern.Syntax
/-!
# Reading patterns

The written form of patterns. Flags in parentheses hold to the end of their group; there are no
conditions on what surrounds a match beyond its two neighbours, and no references to groups.
Without the flag for Unicode only ASCII characters can be asked for.
-/
set_option autoImplicit false

namespace CloudAudit.Pattern

structure Flags where
  anyCase : Bool := false
  multiLine : Bool := false
  dotAll : Bool := false
  eitherEnding : Bool := false
  swapGreed : Bool := false
  unicode : Bool := true
  verbose : Bool := false
  deriving Repr

/-- How far reading is: the rest of the text, the flags in force, and the groups so far. -/
structure Reading where
  rest : List Char
  flags : Flags := {}
  groups : Nat := 0
  names : List (String × Nat) := []
  deriving Repr

inductive Atom where
  | char (c : Char)
  | byte (c : Char)
  | set (chars : CharSet)
  | look (condition : Look)

namespace Reading

/-- Past white space and comments; a comment ends with its line. -/
def skipVerbose (inComment : Bool) : List Char → List Char
  | [] => []
  | c :: text =>
    if inComment then skipVerbose (c != '\n') text
    else if Text.isBlank c then skipVerbose false text
    else if c == '#' then skipVerbose true text
    else c :: text

def skip (reading : Reading) : Reading :=
  if reading.flags.verbose then { reading with rest := skipVerbose false reading.rest } else reading

def drop (reading : Reading) (count : Nat) : Reading :=
  { reading with rest := reading.rest.drop count }

def advance (reading : Reading) : Reading :=
  (reading.drop 1).skip

def peek? (reading : Reading) : Option Char :=
  reading.rest.head?

def word (reading : Reading) : CharSet :=
  if reading.flags.unicode then .word else .asciiWord

def expect? (reading : Reading) (c : Char) : Option Reading :=
  if reading.peek? == some c then some (reading.drop 1) else none

end Reading

def isMeta (c : Char) : Bool :=
  "\\.+*?()|[]\x7b\x7d^$#&-~".toList.contains c

def isEscapable (c : Char) : Bool :=
  isMeta c || (c.toNat < 0x80 && !c.isAlphanum && c != '<' && c != '>')

def charOf? (code : Nat) : Option Char :=
  if code < 0xD800 || (0xE000 ≤ code && code < 0x110000) then some (Char.ofNat code) else none

def hexDigits? : Nat → Reading → Option (List Nat × Reading)
  | 0, reading => some ([], reading)
  | count + 1, reading => do
    let c ← reading.peek?
    let value ← Text.hexDigit? c
    let (values, reading) ← hexDigits? count reading.advance
    return (value :: values, reading)

/-- Characters up to a closing brace, which is left behind as well. -/
def bracedChars? (fuel : Nat) (reading : Reading) : Option (List Char × Reading) :=
  match fuel, reading.peek? with
  | _, none => none
  | 0, _ => none
  | fuel + 1, some c =>
    if c == '\x7d' then some ([], reading.drop 1)
    else (bracedChars? fuel reading.advance).map fun (more, reading) => (c :: more, reading)

def hexEscape? (letter : Char) (reading : Reading) : Option (Atom × Reading) :=
  if reading.peek? == some '\x7b' then do
    let (digits, reading) ← bracedChars? reading.rest.length reading.advance
    let values ← digits.mapM Text.hexDigit?
    if values.isEmpty then none
    else do
      let c ← charOf? (Text.valueIn 16 values)
      return (.char c, reading.skip)
  else do
    let count := if letter == 'x' then 2 else if letter == 'u' then 4 else 8
    let (values, reading) ← hexDigits? count reading
    let c ← charOf? (Text.valueIn 16 values)
    return (if letter == 'x' then .byte c else .char c, reading)

def propertySet? (written : List Char) : Option (Bool × CharSet) :=
  let rec unequal : List Char → List Char → Option (List Char × List Char)
    | _, [] => none
    | before, '!' :: '=' :: value => some (before.reverse, value)
    | before, c :: text => unequal (c :: before) text
  match unequal [] written with
  | some (name, value) =>
    (CharSet.byValue? (.ofList name) (.ofList value)).map fun set => (true, set)
  | none =>
    match Text.cutAt ':' written with
    | some (name, value) =>
      (CharSet.byValue? (.ofList name) (.ofList value)).map fun set => (false, set)
    | none =>
      match Text.cutAt '=' written with
      | some (name, value) =>
        (CharSet.byValue? (.ofList name) (.ofList value)).map fun set => (false, set)
      | none => (CharSet.byName? (.ofList written)).map fun set => (false, set)

def foldCase (flags : Flags) (set : CharSet) : CharSet :=
  if flags.anyCase then .anyCase set else set

def propertyEscape? (letter : Char) (reading : Reading) : Option (Atom × Reading) := do
  if !reading.flags.unicode then none
  let c ← reading.peek?
  let (written, reading) ←
    if c == '\x7b' then bracedChars? reading.rest.length reading.advance
    else if c == '\\' then none
    else some ([c], reading.advance)
  let (unequal, set) ←
    if c == '\x7b' then propertySet? written
    else (CharSet.category? (CharSet.propertyName (.ofList written))).map fun set => (false, set)
  let set := foldCase reading.flags set
  return (.set (if (letter == 'P') != unequal then .other set else set), reading)

/-- The class of a letter: digits, white space or characters of words, or their complement. -/
def letterClass (unicode : Bool) (letter : Char) : CharSet :=
  let plain : CharSet :=
    match letter.toLower with
    | 'd' => if unicode then .digit else .asciiDigit
    | 's' => if unicode then .space else .asciiSpace
    | _ => if unicode then .word else .asciiWord
  if letter.isUpper then .other plain else plain

def edgeName? (fuel : Nat) (reading : Reading) : Option (List Char × Reading) :=
  match fuel, reading.peek? with
  | _, none => none
  | 0, _ => none
  | fuel + 1, some c =>
    if c == '\x7d' then some ([], reading.drop 1)
    else if c.isAlpha || c == '-' then
      (edgeName? fuel reading.advance).map fun (more, reading) => (c :: more, reading)
    else none

/-- The edge of a word, which a name in braces may narrow; braces that hold no letter belong to a
repetition. -/
def wordEdge? (reading : Reading) : Option (Atom × Reading) :=
  let plain : Atom × Reading := (.look (.wordEdge reading.word), reading)
  if reading.peek? != some '\x7b' then some plain
  else
    let inside := reading.advance
    match inside.peek? with
    | none => none
    | some c =>
      if !(c.isAlpha || c == '-') then some plain
      else
        match edgeName? inside.rest.length inside with
        | none => none
        | some (name, after) =>
          match String.ofList name with
          | "start" => some (.look (.wordStart reading.word), after)
          | "end" => some (.look (.wordEnd reading.word), after)
          | "start-half" => some (.look (.beforeNotWord reading.word), after)
          | "end-half" => some (.look (.afterNotWord reading.word), after)
          | _ => none

def escape? (reading : Reading) : Option (Atom × Reading) := do
  let c ← reading.peek?
  if c.isDigit then none
  else if c == 'x' || c == 'u' || c == 'U' then hexEscape? c reading.advance
  else if c == 'p' || c == 'P' then propertyEscape? c reading.advance
  else
    let after := reading.drop 1
    if "dswDSW".toList.contains c then
      return (.set (letterClass reading.flags.unicode c), after)
    else if isEscapable c then return (.char c, after)
    else
      match c with
      | 'a' => return (.char '\x07', after)
      | 'f' => return (.char '\x0c', after)
      | 't' => return (.char '\t', after)
      | 'n' => return (.char '\n', after)
      | 'r' => return (.char '\r', after)
      | 'v' => return (.char '\x0b', after)
      | 'A' => return (.look .textStart, after)
      | 'z' => return (.look .textEnd, after)
      | 'b' => wordEdge? after
      | 'B' => return (.look (.notWordEdge reading.word), after)
      | '<' => return (.look (.wordStart reading.word), after)
      | '>' => return (.look (.wordEnd reading.word), after)
      | _ => none

inductive SetOp where
  | meet
  | without
  | oneOf

def combine (flags : Flags) (left : Option (SetOp × CharSet)) (right : CharSet) : CharSet :=
  match left with
  | none => right
  | some (op, left) =>
    let left := foldCase flags left
    let right := foldCase flags right
    match op with
    | .meet => .both left right
    | .without => .both left (.other right)
    | .oneOf => .oneOf left right

def namedClass? (text : List Char) : Option (CharSet × List Char) :=
  match text with
  | '[' :: ':' :: text =>
    let (negated, text) : Bool × List Char :=
      match text with
      | '^' :: text => (true, text)
      | text => (false, text)
    match Text.cutAt ':' text with
    | some (name, ']' :: rest) =>
      (CharSet.named? (.ofList name)).map fun set => (if negated then .other set else set, rest)
    | _ => none
  | _ => none

def member? (reading : Reading) : Option (Atom × Reading) := do
  let c ← reading.peek?
  if c == '\\' then escape? (reading.drop 1) else return (.char c, reading.drop 1)

/-- The character of a member that can bound a range. Without the flag for Unicode it is a byte. -/
def bound? (flags : Flags) : Atom → Option Nat
  | .char c => if flags.unicode || c.toNat < 0x80 then some c.toNat else none
  | .byte c => some c.toNat
  | _ => none

/-- A member, or a range of two, of a set in square brackets. -/
def memberSet? (reading : Reading) : Option (CharSet × Reading) := do
  let (first, reading) ← member? reading
  let reading := reading.skip
  let c ← reading.peek?
  let second := (reading.advance).peek?
  if c != '-' || second == some ']' || second == some '-' then
    match first with
    | .set set => return (set, reading)
    | other => do
      let code ← bound? reading.flags other
      return (.ranges [(code, code)], reading)
  else do
    let low ← bound? reading.flags first
    let (last, reading) ← member? reading.advance
    let high ← bound? reading.flags last
    if low ≤ high then return (.ranges [(low, high)], reading) else none

/-- The hyphens at the start of a set in square brackets stand for themselves. -/
def leadingHyphens (fuel : Nat) (reading : Reading) (set : Option CharSet) :
    Option CharSet × Reading :=
  match fuel, reading.peek? with
  | fuel + 1, some '-' => leadingHyphens fuel reading.advance (some (.only '-'))
  | _, _ => (set, reading)

def finishSet? (flags : Flags) (negated : Bool) (set : CharSet) : Option CharSet :=
  let set := foldCase flags set
  let set := if negated then .other set else set
  if flags.unicode then some set
  else if (List.range 128).any fun code => set.has (code + 128) then none
  else some (.both .ascii set)

mutual

def bracketed? : Nat → Reading → Option (CharSet × Reading)
  | 0, _ => none
  | fuel + 1, reading => do
    let c ← reading.peek?
    let negated := c == '^'
    let reading := if negated then reading.advance else reading
    let (set, reading) := leadingHyphens reading.rest.length reading none
    let c ← reading.peek?
    let (set, reading) : CharSet × Reading :=
      match set with
      | some set => (set, reading)
      | none => if c == ']' then (.only ']', reading.advance) else (.nothing, reading)
    let (set, reading) ← members? fuel none set reading
    let set ← finishSet? reading.flags negated set
    return (set, reading)

/-- The members of a set up to its closing bracket: `left` waits for the union under way. -/
def members? : Nat → Option (SetOp × CharSet) → CharSet → Reading → Option (CharSet × Reading)
  | 0, _, _, _ => none
  | fuel + 1, left, union, reading =>
    let reading := reading.skip
    match reading.rest with
    | [] => none
    | '[' :: rest =>
      match namedClass? ('[' :: rest) with
      | some (set, rest) =>
        members? fuel left (.either union (foldCase reading.flags set)) { reading with rest }
      | none => do
        let (set, reading) ← bracketed? fuel reading.advance
        members? fuel left (.either union set) reading
    | ']' :: rest => some (combine reading.flags left union, { reading with rest })
    | '&' :: '&' :: rest =>
      members? fuel (some (.meet, combine reading.flags left union)) .nothing { reading with rest }
    | '-' :: '-' :: rest =>
      members? fuel (some (.without, combine reading.flags left union)) .nothing
        { reading with rest }
    | '~' :: '~' :: rest =>
      members? fuel (some (.oneOf, combine reading.flags left union)) .nothing { reading with rest }
    | _ => do
      let (set, reading) ← memberSet? reading
      members? fuel left (.either union set) reading

end

def charNode? (flags : Flags) (c : Char) : Option Node :=
  if !flags.anyCase then some (.set (.only c))
  else if flags.unicode then some (.set (.anyCase (.only c)))
  else if c.toNat < 0x80 then some (.set (.both .ascii (.anyCase (.only c))))
  else none

def atomNode? (flags : Flags) : Atom → Option Node
  | .char c => charNode? flags c
  | .byte c => if flags.unicode || c.toNat < 0x80 then charNode? flags c else none
  | .set set =>
    if flags.unicode then some (.set set)
    else if set.has 0x80 then none
    else some (.set set)
  | .look condition => some (.look condition)

def dotNode? (flags : Flags) : Option Node :=
  if !flags.unicode then none
  else if flags.dotAll then some (.set .anything)
  else if flags.eitherEnding then some (.set (.other (.ranges [(0x0A, 0x0A), (0x0D, 0x0D)])))
  else some (.set (.other (.ranges [(0x0A, 0x0A)])))

def startLook (flags : Flags) : Look :=
  if !flags.multiLine then .textStart
  else if flags.eitherEnding then .eitherLineStart
  else .lineStart

def endLook (flags : Flags) : Look :=
  if !flags.multiLine then .textEnd
  else if flags.eitherEnding then .eitherLineEnd
  else .lineEnd

def Flags.set? (flags : Flags) (letter : Char) (value : Bool) : Option Flags :=
  match letter with
  | 'i' => some { flags with anyCase := value }
  | 'm' => some { flags with multiLine := value }
  | 's' => some { flags with dotAll := value }
  | 'R' => some { flags with eitherEnding := value }
  | 'U' => some { flags with swapGreed := value }
  | 'u' => some { flags with unicode := value }
  | 'x' => some { flags with verbose := value }
  | _ => none

/-- Flags up to a colon or a closing parenthesis: each letter once, one minus sign at most and not
the last. Answers the flags, that character, whether anything stood before it, and the rest. -/
def flags? (flags : Flags) (value : Bool) (seen : List Char) :
    List Char → Option (Flags × Char × Bool × List Char)
  | [] => none
  | c :: text =>
    if c == ':' || c == ')' then
      if seen.head? == some '-' then none else some (flags, c, !seen.isEmpty, text)
    else if seen.contains c then none
    else if c == '-' then flags? flags false (c :: seen) text
    else
      match flags.set? c value with
      | some flags => flags? flags value (c :: seen) text
      | none => none

def isGroupNameChar (first : Bool) (c : Char) : Bool :=
  let code := c.toNat
  let letter := (CharSet.property "alphabetic").has code
  if first then c == '_' || letter
  else
    c == '_' || c == '.' || c == '[' || c == ']' || letter
      || (Text.rangesOfAll ["Nd", "Nl", "No"]).has code

def groupName? (first : Bool) : List Char → Option (List Char × List Char)
  | [] => none
  | c :: text =>
    if c == '>' then (if first then none else some ([], text))
    else if isGroupNameChar first c then
      (groupName? false text).map fun (name, rest) => (c :: name, rest)
    else none

def count? (reading : Reading) : Option (Nat × Reading) :=
  let rec digits : Nat → Reading → List Nat × Reading
    | 0, reading => ([], reading)
    | fuel + 1, reading =>
      match reading.peek?.bind Text.digit? with
      | some value =>
        let (values, reading) := digits fuel reading.advance
        (value :: values, reading)
      | none => ([], reading)
  let blanks (reading : Reading) : Reading :=
    { reading with rest := reading.rest.dropWhile Text.isBlank }
  let (values, reading) := digits reading.rest.length (blanks reading)
  let reading := (blanks reading).skip
  if values.isEmpty || Text.valueIn 10 values ≥ 4294967296 then none
  else some (Text.valueIn 10 values, reading)

/-- The bounds of a counted repetition whose opening brace is behind, up to its closing brace. -/
def bounds? (reading : Reading) : Option (Nat × Option Nat × Reading) := do
  let (least, reading) ← count? reading
  match reading.peek? with
  | some ',' =>
    let reading := reading.advance
    if reading.peek? == some '\x7d' then return (least, none, reading)
    else do
      let (most, reading) ← count? reading
      if least ≤ most then
        let reading ← (if reading.peek? == some '\x7d' then some reading else none)
        return (least, some most, reading)
      else none
  | some '\x7d' => return (least, some least, reading)
  | _ => none

def greed (reading : Reading) : Bool × Reading :=
  if reading.peek? == some '?' then (reading.flags.swapGreed, reading.drop 1)
  else (!reading.flags.swapGreed, reading)

inductive Opening where
  | flags (reading : Reading)
  | plain (reading : Reading)
  | capture (index : Nat) (reading : Reading)

def capture (reading : Reading) : Opening :=
  .capture (reading.groups + 1) { reading with groups := reading.groups + 1 }

/-- A capturing group with the next number and a name that no other group has. -/
def namedCapture? (reading : Reading) (text : List Char) : Option Opening :=
  match groupName? true text with
  | none => none
  | some (name, rest) =>
    let name := String.ofList name
    if reading.names.any fun entry => entry.1 == name then none
    else
      some (capture
        { reading with rest, names := (name, reading.groups + 1) :: reading.names })

def opening? (reading : Reading) : Option Opening :=
  let reading := reading.skip
  match reading.rest with
  | '?' :: '=' :: _ | '?' :: '!' :: _ | '?' :: '<' :: '=' :: _ | '?' :: '<' :: '!' :: _ => none
  | '?' :: 'P' :: '<' :: text => namedCapture? reading text
  | '?' :: '<' :: text => namedCapture? reading text
  | '?' :: text =>
    match flags? reading.flags true [] text with
    | some (flags, ':', _, rest) => some (.plain { reading with rest, flags })
    | some (flags, _, true, rest) => some (.flags { reading with rest, flags })
    | _ => none
  | _ => some (capture reading)

/-- The last part read, repeated; flags cannot be. -/
def repeated? (least : Nat) (most : Option Nat) (greedy : Bool) :
    List (Option Node) → Option (List (Option Node))
  | some node :: parts => some (some (.rounds least most greedy node) :: parts)
  | _ => none

mutual

/-- Alternatives up to the end of the text or a closing parenthesis, which stays. -/
def alternatives? : Nat → Reading → Option (List Node × Reading)
  | 0, _ => none
  | fuel + 1, reading => do
    let (parts, reading) ← parts? fuel [] reading
    let node := Node.ofSequence (parts.reverse.filterMap id)
    match reading.rest with
    | '|' :: rest => do
      let (more, reading) ← alternatives? fuel { reading with rest }
      return (node :: more, reading)
    | _ => return ([node], reading)

/-- Parts one after another, the last one first, up to a bar, a closing parenthesis or the end;
flags leave a part without a pattern. -/
def parts? : Nat → List (Option Node) → Reading → Option (List (Option Node) × Reading)
  | 0, _, _ => none
  | fuel + 1, parts, reading =>
    let reading := reading.skip
    match reading.rest with
    | [] => some (parts, reading)
    | ')' :: _ => some (parts, reading)
    | '|' :: _ => some (parts, reading)
    | '(' :: _ => do
      match ← opening? (reading.drop 1) with
      | .flags inside => parts? fuel (none :: parts) inside
      | .plain inside => do
        let (nodes, after) ← alternatives? fuel inside
        let after ← after.expect? ')'
        parts? fuel (some (.ofChoice nodes) :: parts) { after with flags := reading.flags }
      | .capture index inside => do
        let (nodes, after) ← alternatives? fuel inside
        let after ← after.expect? ')'
        parts? fuel (some (.group index (.ofChoice nodes)) :: parts)
          { after with flags := reading.flags }
    | '[' :: _ => do
      let (set, reading) ← bracketed? fuel reading.advance
      parts? fuel (some (.set set) :: parts) reading
    | '*' :: _ => do
      let (greedy, reading) := greed (reading.drop 1)
      parts? fuel (← repeated? 0 none greedy parts) reading
    | '+' :: _ => do
      let (greedy, reading) := greed (reading.drop 1)
      parts? fuel (← repeated? 1 none greedy parts) reading
    | '?' :: _ => do
      let (greedy, reading) := greed (reading.drop 1)
      parts? fuel (← repeated? 0 (some 1) greedy parts) reading
    | '\x7b' :: _ => do
      let (least, most, reading) ← bounds? reading.advance
      let (greedy, reading) := greed reading.advance
      parts? fuel (← repeated? least most greedy parts) reading
    | '\\' :: _ => do
      let (atom, reading) ← escape? (reading.drop 1)
      let node ← atomNode? reading.flags atom
      parts? fuel (some node :: parts) reading
    | '.' :: _ => do
      let node ← dotNode? reading.flags
      parts? fuel (some node :: parts) (reading.drop 1)
    | '^' :: _ => parts? fuel (some (.look (startLook reading.flags)) :: parts) (reading.drop 1)
    | '$' :: _ => parts? fuel (some (.look (endLook reading.flags)) :: parts) (reading.drop 1)
    | c :: _ => do
      let node ← charNode? reading.flags c
      parts? fuel (some node :: parts) (reading.drop 1)

end

/-- A whole pattern, and what was read beside it. -/
def read? (text : String) : Option (Node × Reading) := do
  let chars := text.toList
  let (nodes, reading) ← alternatives? (2 * chars.length + 2) { rest := chars }
  if reading.rest.isEmpty then return (.ofChoice nodes, reading) else none

end CloudAudit.Pattern
