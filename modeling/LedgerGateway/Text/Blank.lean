import LedgerGateway.Text.CodeRanges

/-!
# Blank characters

Three classes of blanks occur in the formats read here. `isBlank` is the widest: the white space
of Unicode together with the four information separators. `isInlineBlank` leaves out the two
characters that end a line, and `isAsciiBlank` is the class of six that hexadecimal data admits
between its digit pairs.
-/

namespace LedgerGateway.Text

/-- White space of Unicode and the information separators U+001C to U+001F. -/
def blankRanges : CodeRanges :=
  [(0x9, 0xD), (0x1C, 0x20), (0x85, 0x85), (0xA0, 0xA0), (0x1680, 0x1680), (0x2000, 0x200A),
   (0x2028, 0x2029), (0x202F, 0x202F), (0x205F, 0x205F), (0x3000, 0x3000)]

/-- Whether the character is blank. -/
def isBlank (c : Char) : Bool := blankRanges.mem c.toNat

/-- Whether the character is blank and leaves its line open. -/
def isInlineBlank (c : Char) : Bool := isBlank c && c != '\n' && c != '\r'

/-- Space, tab, line feed, vertical tab, form feed and carriage return. -/
def isAsciiBlank (c : Char) : Bool := c == ' ' || (9 ≤ c.toNat && c.toNat ≤ 13)

/-- The text without the members of a class at its two ends. -/
def trimBy (p : Char → Bool) (s : List Char) : List Char :=
  ((s.dropWhile p).reverse.dropWhile p).reverse

/-- The text without blanks at its two ends. -/
def trim (s : List Char) : List Char := trimBy isBlank s

/-- The text without blanks at its end. -/
def trimEnd (s : List Char) : List Char := (s.reverse.dropWhile isBlank).reverse

end LedgerGateway.Text
