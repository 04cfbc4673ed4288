import CloudAudit.Text.Category
import CloudAudit.Text.Property
/-!
# Letters and numbers

`isAlphanumeric` is the Unicode property `Alphabetic` together with the categories of numbers.
-/
set_option autoImplicit false

namespace CloudAudit.Text

def alphanumericRanges : Ranges :=
  (propertyRanges? "alphabetic").getD [] ++ rangesOfAll ["Nd", "Nl", "No"]

def isAlphanumeric (c : Char) : Bool :=
  if c.toNat < 0x80 then c.isAlphanum else alphanumericRanges.has c.toNat

end CloudAudit.Text
