import LedgerGateway.Datum.Basic
import LedgerGateway.Json.Reader
import LedgerGateway.Toml.Fault

/-!
# Numbers in TOML

Integers are written in base ten with a sign, or in base sixteen, two or eight behind `0x`, `0b` or
`0o`. A fraction or an exponent makes a floating point number. Single underscores may stand between
digits everywhere.
-/

namespace LedgerGateway.Toml

open Decimal (Binary64)

/-- The digits of a class in front of a text, with single underscores between them, given that a
digit stands before the text. -/
def moreDigits (p : Char → Bool) : List Char → List Char
  | '_' :: d :: rest => if p d then '_' :: d :: moreDigits p rest else []
  | d :: rest => if p d then d :: moreDigits p rest else []
  | [] => []

/-- The digits of a class in front of a text, with single underscores between them. -/
def groupedDigits (p : Char → Bool) : List Char → List Char
  | d :: rest => if p d then d :: moreDigits p rest else []
  | [] => []

/-- The digits without their underscores. -/
def plain (ds : List Char) : List Char := ds.filter (· ≠ '_')

/-- The number that digits in a base spell. -/
def inBase (base : Nat) (ds : List Char) : Nat :=
  (plain ds).foldl (fun n c => n * base + (Hex.digitValue? c).getD 0) 0

/-- The base that a letter behind a zero stands for. -/
def baseOf? : Char → Option Nat
  | 'x' => some 16
  | 'b' => some 2
  | 'o' => some 8
  | _ => none

/-- Whether the character is a digit in a base. -/
def isDigitIn (base : Nat) (c : Char) : Bool := (Hex.digitValue? c).any (· < base)

/-- The integer behind a base mark, and the number of its characters. -/
def readBased : List Char → Option (Nat × Nat)
  | '0' :: mark :: rest =>
    match baseOf? mark with
    | some base =>
      let ds := groupedDigits (isDigitIn base) rest
      if ds.isEmpty then none else some (inBase base ds, ds.length + 2)
    | none => none
  | _ => none

/-- The characters of the whole part: a zero, or digits that begin with another one. -/
def wholePart : List Char → List Char
  | '0' :: _ => ['0']
  | s => groupedDigits Char.isDigit s

/-- The digits of the fraction, if a point and a digit come next. -/
def fractionPart : List Char → List Char
  | '.' :: rest => groupedDigits Char.isDigit rest
  | _ => []

/-- The sign and the digits of the exponent, if one comes next. -/
def exponentPart : List Char → Option (List Char × List Char)
  | c :: rest =>
    if c = 'e' ∨ c = 'E' then
      let sign := match rest with
        | '+' :: _ => ['+']
        | '-' :: _ => ['-']
        | _ => []
      let ds := groupedDigits Char.isDigit (rest.drop sign.length)
      if ds.isEmpty then none else some (sign, ds)
    else none
  | [] => none

/-- The number of characters of an exponent. -/
def exponentLength : Option (List Char × List Char) → Nat
  | none => 0
  | some (sign, ds) => 1 + sign.length + ds.length

/-- The number in base ten at the start of a text, and the number of its characters. -/
def readDecimal (s : List Char) : Option (Except Fault Datum × Nat) :=
  let sign := match s with
    | '+' :: _ => ['+']
    | '-' :: _ => ['-']
    | _ => []
  let negative := sign = ['-']
  let rest := s.drop sign.length
  let whole := wholePart rest
  if whole.isEmpty then none
  else
    let rest := rest.drop whole.length
    let fraction := fractionPart rest
    let point := if fraction.isEmpty then 0 else fraction.length + 1
    let exponent := exponentPart (rest.drop point)
    let count := sign.length + whole.length + point + exponentLength exponent
    let digits := plain whole
    if fraction.isEmpty && exponent.isNone then
      if Decimal.digitLimit < digits.length then some (.error (.tooManyDigits digits.length), count)
      else some (.ok (.int (Binary64.signed negative (Json.Numeral.ofDigits digits))), count)
    else
      let behind := plain fraction
      let shift := Json.Numeral.exponentValue (exponent.map fun e => (e.1, plain e.2))
      some (.ok (.float (Binary64.ofDecimal negative (Json.Numeral.ofDigits (digits ++ behind))
        (shift - behind.length))), count)

/-- The words for numbers that are not finite. -/
def specials : List (List Char × Binary64) :=
  [("inf".toList, .infinite false), ("nan".toList, .nan), ("-inf".toList, .infinite true),
   ("+inf".toList, .infinite false), ("-nan".toList, .nan), ("+nan".toList, .nan)]

/-- The number at the start of a text, and the number of its characters. -/
def readNumber (s : List Char) : Option (Except Fault Datum × Nat) :=
  match readBased s with
  | some (n, count) => some (.ok (.int n), count)
  | none =>
    match readDecimal s with
    | some r => some r
    | none =>
      (specials.find? fun w => w.1.isPrefixOf s).map fun w => (.ok (.float w.2), w.1.length)

end LedgerGateway.Toml
