import LedgerGateway.Decimal.Ratio
import LedgerGateway.Text.Blank
import LedgerGateway.Text.DecimalDigit

/-!
# Integers in base ten

Writing is plain: a minus sign below zero, then the digits. Reading is liberal: blanks at both
ends, a sign, the decimal digits of any script, and single underscores between digits. A text of
more than `digitLimit` digits is refused, and so is an integer of more digits when it is to be
written where the limit is kept.
-/

namespace LedgerGateway.Decimal

/-- The text of an integer. -/
def intText (n : Int) : String := toString n

/-- The most digits that a text may have to be read as an integer. -/
def digitLimit : Nat := 4300

/-- The wording of a refusal for the number of digits. -/
def tooManyDigits (count : Nat) : String :=
  s!"Exceeds the limit ({digitLimit} digits) for integer string conversion: value has {count} digits; use sys.set_int_max_str_digits() to increase the limit"

/-- The wording of a refusal to write an integer of more digits than `digitLimit`. -/
def tooLongToWrite : String :=
  s!"Exceeds the limit ({digitLimit} digits) for integer string conversion; use sys.set_int_max_str_digits() to increase the limit"

/-- Whether an integer is short enough to be written. -/
def isShort (n : Int) : Bool := digitCount n.natAbs ≤ digitLimit

theorem isShort_iff {n : Int} : isShort n = true ↔ digitCount n.natAbs ≤ digitLimit :=
  decide_eq_true_iff

/-- Digits with single underscores between them: their values, or nothing. The flag tells whether a
digit stands directly in front. -/
def readDigits : Bool → List Char → Option (List Nat)
  | afterDigit, [] => if afterDigit then some [] else none
  | afterDigit, c :: rest =>
    if c = '_' then
      if afterDigit then readDigits false rest else none
    else match Text.digitValue? c with
      | some v => (readDigits true rest).map (v :: ·)
      | none => none

/-- The number that digit values spell. -/
def ofDigits (vs : List Nat) : Nat := vs.foldl (fun n v => n * 10 + v) 0

/-- Whether the character may surround an integer: the ASCII blanks, and the blanks of Unicode
outside ASCII. -/
def isIntegerBlank (c : Char) : Bool :=
  if c.toNat < 128 then Text.isAsciiBlank c else Text.isBlank c

/-- The sign in front of a text, and the rest. -/
def takeSign : List Char → Bool × List Char
  | '-' :: rest => (true, rest)
  | '+' :: rest => (false, rest)
  | s => (false, s)

/-- The integer that a text spells. -/
def readInt (s : String) : Option Int :=
  let (negative, body) := takeSign (Text.trimBy isIntegerBlank s.toList)
  match readDigits false body with
  | none => none
  | some vs =>
    if digitLimit < vs.length then none
    else some (if negative then -(ofDigits vs : Int) else ofDigits vs)

end LedgerGateway.Decimal
