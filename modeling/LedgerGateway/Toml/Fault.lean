import LedgerGateway.Text.Unread

/-!
# Faults of a TOML document

A document that breaks a rule of the format is invalid, whatever the rule. Two faults are told
apart from that: an integer with too many digits, and values too deep inside others.
-/

namespace LedgerGateway.Toml

open Text.Unread

/-- Why a document was not read. -/
inductive Fault where
  | invalid
  | tooManyDigits (count : Nat)
  | tooDeep
  deriving DecidableEq, Repr

/-- Whether the character is a space or a tab. -/
def isGap (c : Char) : Bool := c = ' ' || c = '\t'

/-- Whether the character is a space, a tab or the end of a line. -/
def isGapOrNewline (c : Char) : Bool := isGap c || c = '\n'

/-- Whether the character may not stand in a line of text or a comment: a control character other
than the tab. -/
def isIllegal (c : Char) : Bool := (c.toNat < 0x20 && c ≠ '\t') || c.toNat = 0x7F

/-- The text behind the rest of a comment, up to the end of its line. -/
def readComment (s : List Char) : Option (UpTo s) :=
  if (s.takeWhile (· ≠ '\n')).any isIllegal then none else some (skip (· ≠ '\n') s)

/-- The text behind a comment, if one comes next. -/
def skipComment (s : List Char) : Except Fault (UpTo s) :=
  match s with
  | '#' :: rest =>
    match readComment rest with
    | none => .error .invalid
    | some r => .ok (weaken (pastAll '#' r))
  | s => .ok (whole s)

end LedgerGateway.Toml
