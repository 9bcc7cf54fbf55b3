import LedgerGateway.Domain.Direction
import LedgerGateway.Domain.Joining
import LedgerGateway.Domain.Permitted
import LedgerGateway.Domain.Script
import LedgerGateway.Text.Composed
import LedgerGateway.Text.Mark

/-!
# Labels of domain names

A domain name is a row of labels. A label holds letters, digits and hyphens of all scripts, under
rules on its form, on what stands beside what, and on its direction. A label is a list of code
points.
-/

namespace LedgerGateway.Domain

/-- What is wrong with a label. -/
inductive LabelFault where
  /-- The form of the label as a whole is wrong. -/
  | malformed
  /-- The label holds a character that no label may hold. -/
  | forbidden
  /-- The label holds a character that may not stand where it does. -/
  | outOfPlace
  /-- The directions of the characters do not go together, or are not all known. -/
  | direction
  deriving DecidableEq, Repr

namespace Label

/-- The most code points that a label has. -/
def sizeLimit : Nat := 254

/-- The hyphen. -/
def hyphen : Nat := 0x2D

/-- Whether hyphens stand where they may: not at an end, and not at the third and fourth place. -/
def hyphensFit (s : List Nat) : Bool :=
  (s.drop 2).take 2 ≠ [hyphen, hyphen] && s.head? ≠ some hyphen && s.getLast? ≠ some hyphen

/-- Whether the form of the label is right. -/
def isWellFormed (s : List Nat) : Bool :=
  !s.isEmpty && s.length ≤ sizeLimit && Text.isComposed s && hyphensFit s
    && !s.head?.any Text.isMark

/-! ## What stands beside what -/

/-- The combining class of the sign that cuts the vowel off a consonant. -/
def viramaClass : Nat := 9

/-- Whether the last character that is not passed over joins as it has to. -/
def joins (ways : List Joining) (s : List Nat) : Bool :=
  (s.dropWhile fun n => Joining.of n = .transparent).head?.any fun n => ways.contains (Joining.of n)

/-- Whether what keeps two letters apart may stand behind and in front of a text. The text in front
comes in reverse. -/
def separatorFits (front behind : List Nat) : Bool :=
  front.head?.any (fun n => Text.combiningClass n = viramaClass)
    || (joins [.next, .both] front && joins [.previous, .both] behind)

/-- Whether a character of one sort of digits goes together with a label, which may hold none of the
other sort. -/
def digitsFit (otherZero : Nat) (s : List Nat) : Bool :=
  !s.any fun n => otherZero ≤ n ∧ n ≤ otherZero + 9

/-- The point in the middle of the katakana script. -/
def katakanaPoint : Nat := 0x30FB

/-- Whether a character that is permitted in some places only may stand between two parts of a
label, of which the first one comes in reverse; nothing if it is permitted nowhere. -/
def fitsBetween? (front : List Nat) (n : Nat) (behind : List Nat) : Option Bool :=
  let whole := front.reverse ++ n :: behind
  if n = 0x200C then some (separatorFits front behind)
  else if n = 0x200D then
    some (front.head?.any fun m => Text.combiningClass m = viramaClass)
  else if n = 0xB7 then some (front.head? = some 0x6C && behind.head? = some 0x6C)
  else if n = 0x375 then some (behind.head?.any greek.mem)
  else if n = 0x5F3 ∨ n = 0x5F4 then some (front.head?.any hebrew.mem)
  else if n = katakanaPoint then some (whole.any fun m => m ≠ katakanaPoint && japanese.mem m)
  else if 0x660 ≤ n ∧ n ≤ 0x669 then some (digitsFit 0x6F0 whole)
  else if 0x6F0 ≤ n ∧ n ≤ 0x6F9 then some (digitsFit 0x660 whole)
  else none

/-- Checks the characters of a label behind some that come in reverse. -/
def checkFrom (front : List Nat) : List Nat → Except LabelFault Unit
  | [] => .ok ()
  | n :: rest =>
    if isPermitted n then checkFrom (n :: front) rest
    else
      match fitsBetween? front n rest with
      | none => .error .forbidden
      | some true => checkFrom (n :: front) rest
      | some false => .error .outOfPlace

/-! ## Direction -/

/-- The directions that ask for the rule on directions. -/
def turning : List Direction := [.rightToLeft, .arabicLetter, .arabicNumber]

/-- The directions that may stand in a label which is written from right to left. -/
def turnedParts : List Direction :=
  [.rightToLeft, .arabicLetter, .arabicNumber, .number, .separator, .neutral, .boundary, .mark]

/-- The directions that may stand in a label which is written from left to right. -/
def plainParts : List Direction := [.leftToRight, .number, .separator, .neutral, .boundary, .mark]

/-- Whether directions end, marks apart, with one of some directions. -/
def endsWith (ends ds : List Direction) : Bool :=
  (ds.reverse.dropWhile fun d => d = .mark).head?.any ends.contains

/-- Whether a label which is written from right to left has the directions that it may have. -/
def turnedFits (ds : List Direction) : Bool :=
  ds.all turnedParts.contains
    && endsWith [.rightToLeft, .arabicLetter, .number, .arabicNumber] ds
    && !(ds.contains .number && ds.contains .arabicNumber)

/-- Whether a label which is written from left to right has the directions that it may have. -/
def plainFits (ds : List Direction) : Bool :=
  ds.all plainParts.contains && endsWith [.leftToRight, .number] ds

/-- Whether the directions of a label go together. There is no rule on those of a label in which
nothing is written from right to left. -/
def directionsFit (ds : List Direction) : Bool :=
  !ds.any turning.contains
    || match ds.head? with
      | some .leftToRight => plainFits ds
      | some .rightToLeft => turnedFits ds
      | some .arabicLetter => turnedFits ds
      | _ => false

/-- Checks a label. That all directions are known comes before what the characters are, and how they
go together comes last. -/
def check (s : List Nat) : Except LabelFault Unit :=
  let ds := s.map Direction.of
  if !isWellFormed s then .error .malformed
  else if ds.contains .unknown then .error .direction
  else
    match checkFrom [] s with
    | .error fault => .error fault
    | .ok _ => if directionsFit ds then .ok () else .error .direction

end Label

end LedgerGateway.Domain
