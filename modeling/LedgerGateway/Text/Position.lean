/-!
# Positions in a text

A position is reported three ways: its line and its column, both counted from one, and the number
of characters in front of it. Only a line feed ends a line.
-/

namespace LedgerGateway.Text

/-- A place between two characters of a text. -/
structure Position where
  /-- The line, from one. -/
  line : Nat
  /-- The column, from one. -/
  column : Nat
  /-- The characters in front. -/
  offset : Nat
  deriving DecidableEq, Repr

/-- The place behind the given characters. -/
def Position.after (before : List Char) : Position where
  line := before.count '\n' + 1
  column := (before.reverse.takeWhile (· ≠ '\n')).length + 1
  offset := before.length

/-- The wording of a place. -/
def Position.text (p : Position) : String := s!"line {p.line} column {p.column} (char {p.offset})"

end LedgerGateway.Text
