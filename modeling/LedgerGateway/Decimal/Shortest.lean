import LedgerGateway.Decimal.Binary64

/-!
# The shortest decimal text of a floating point number

The digits are the fewest that read back as the number, and of those the ones nearest to it. On
each decimal grid only the two neighbours of the number need a test: if any point of the grid reads
back, one of them does. The text is positional from 0.0001 up to below 10 ^ 16 and scientific
outside.
-/

namespace LedgerGateway.Decimal

/-- The decimal number `0.d₁d₂… · 10 ^ point`. -/
structure Scientific where
  /-- The digits behind the point. -/
  digits : List Char
  /-- The power of ten. -/
  point : Int
  deriving DecidableEq, Repr

namespace Scientific

/-- The number `coefficient · 10 ^ exponent`, without zeros at its end. -/
def ofCoefficient (coefficient : Nat) (exponent : Int) : Scientific where
  digits := ((Decimal.digits coefficient).reverse.dropWhile (· = '0')).reverse
  point := digitCount coefficient + exponent

/-- The grid point with the given number of digits that reads back as the number, the nearer one
if both neighbours do. -/
def onGrid? (mantissa : Nat) (exponent : Int) (count : Nat) : Option Scientific :=
  let value := Binary64.magnitude mantissa exponent
  let unit : Int := value.magnitude - count
  let steps := value.scale 10 (-unit)
  let low := steps.floor
  let readsBack (n : Nat) : Bool :=
    Binary64.ofDecimal false n unit = .finite false mantissa exponent
  match readsBack low, readsBack (low + 1) with
  | true, true => some (ofCoefficient steps.round unit)
  | true, false => some (ofCoefficient low unit)
  | false, true => some (ofCoefficient (low + 1) unit)
  | false, false => none

/-- The shortest digits of a finite number above zero. Seventeen always suffice. -/
def shortest (mantissa : Nat) (exponent : Int) : Scientific :=
  let value := Binary64.magnitude mantissa exponent
  let unit : Int := value.magnitude - 17
  ((List.range 17).findSome? fun i => onGrid? mantissa exponent (i + 1)).getD
    (ofCoefficient (value.scale 10 (-unit)).round unit)

/-- The exponent of scientific notation: a sign and at least two digits. -/
def exponentText (e : Int) : List Char :=
  let ds := Decimal.digits e.natAbs
  'e' :: (if e < 0 then '-' else '+') :: (if ds.length < 2 then '0' :: ds else ds)

/-- The number with all its digits around the point, and at least one digit on either side. -/
def positional (s : Scientific) : List Char :=
  match s.point with
  | .negSucc k => '0' :: '.' :: List.replicate (k + 1) '0' ++ s.digits
  | .ofNat 0 => '0' :: '.' :: s.digits
  | .ofNat k =>
    let fraction := s.digits.drop k
    s.digits.take k ++ List.replicate (k - s.digits.length) '0' ++ '.' ::
      (if fraction.isEmpty then ['0'] else fraction)

/-- The number with one digit in front of the point and a power of ten. -/
def scientific (s : Scientific) : List Char :=
  match s.digits with
  | [] => ['0']
  | [d] => d :: exponentText (s.point - 1)
  | d :: ds => d :: '.' :: ds ++ exponentText (s.point - 1)

/-- The number in the notation that its size asks for. -/
def text (s : Scientific) : List Char :=
  if -4 < s.point ∧ s.point ≤ 16 then s.positional else s.scientific

end Scientific

/-- The shortest text that reads back as the number. -/
def Binary64.toChars : Binary64 → List Char
  | .finite negative mantissa exponent =>
    (if negative then ['-'] else []) ++
      (if mantissa = 0 then ['0', '.', '0'] else (Scientific.shortest mantissa exponent).text)
  | .infinite negative => (if negative then ['-'] else []) ++ ['i', 'n', 'f']
  | .nan => ['n', 'a', 'n']

/-- The shortest text that reads back as the number. -/
def Binary64.toString (x : Binary64) : String := String.ofList x.toChars

end LedgerGateway.Decimal
