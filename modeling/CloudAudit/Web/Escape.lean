import CloudAudit.Text.Blank
import CloudAudit.Text.Utf8
/-!
# Escaped bytes in addresses

In an address `%` and two hexadecimal digits stand for a byte; any other `%` stands for itself. In
a query `+` is a space besides. A path segment has to be well-formed text, a query need not be.
-/
set_option autoImplicit false

namespace CloudAudit.Web

def asciiOf (byte : UInt8) : Char :=
  Char.ofNat byte.toNat

def escaped? (high low : UInt8) : Option UInt8 := do
  let high ← Text.hexDigit? (asciiOf high)
  let low ← Text.hexDigit? (asciiOf low)
  return UInt8.ofNat (high * 16 + low)

/-- Bytes with every escape replaced by what it stands for. -/
def unescape : List UInt8 → List UInt8
  | 0x25 :: high :: low :: bytes =>
    match escaped? high low with
    | some byte => byte :: unescape bytes
    | none => 0x25 :: unescape (high :: low :: bytes)
  | byte :: bytes => byte :: unescape bytes
  | [] => []

def segmentText? (segment : String) : Option String :=
  (Text.Utf8.decode? (unescape (Text.Utf8.encode segment))).map String.ofList

def queryText (part : List Char) : String :=
  let spaced := String.ofList (part.map fun c => if c == '+' then ' ' else c)
  .ofList (Text.Utf8.decodeLossy (unescape (Text.Utf8.encode spaced)))

/-- The names and values of a query: pairs are divided by `&`, a name ends at the first `=`, and
nothing between two `&` is no pair. -/
def queryPairs (query : String) : List (String × String) :=
  ((Text.pieces '&' query.toList).filter fun piece => !piece.isEmpty).map fun piece =>
    match Text.cutAt '=' piece with
    | some (name, value) => (queryText name, queryText value)
    | none => (queryText piece, "")

end CloudAudit.Web
