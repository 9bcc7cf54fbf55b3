import LedgerGateway.Hex.Data
import LedgerGateway.Text.Utf8

/-!
# Percent signs

A character that may not stand in a part of a URL is written as its bytes in UTF-8, each a percent
sign and two digits. Letters, digits and four marks may stand anywhere, and each part keeps some
more characters.
-/

namespace LedgerGateway.Text.Percent

/-- Whether a character stands for itself in every part of a URL. -/
def isUnreserved (c : Char) : Bool := c.isAlphanum || c = '-' || c = '.' || c = '_' || c = '~'

/-- The bytes of a character, each behind a percent sign. -/
def bytes (c : Char) : List Char :=
  (Utf8.encode (String.ofList [c])).flatMap fun b => '%' :: (Hex.byteDigits b).map Char.toUpper

/-- The text with every character escaped that is not kept. -/
def escaped (keeps : Char → Bool) (s : List Char) : List Char :=
  s.flatMap fun c => if isUnreserved c || keeps c then [c] else bytes c

end LedgerGateway.Text.Percent
