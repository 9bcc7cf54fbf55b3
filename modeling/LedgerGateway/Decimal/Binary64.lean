import LedgerGateway.Decimal.Ratio

/-!
# Binary floating point numbers of 64 bits

A finite number is a sign, a mantissa below 2 ^ 53 and an exponent of two from -1074 to 971; beside
them stand the two infinities and the one value that is not a number. Every number here is made by
rounding a ratio, so a finite one is in lowest form: its mantissa is at least 2 ^ 52 unless its
exponent is the lowest.
-/

namespace LedgerGateway.Decimal

/-- A floating point number. -/
inductive Binary64 where
  /-- The number `± mantissa · 2 ^ exponent`. -/
  | finite (negative : Bool) (mantissa : Nat) (exponent : Int)
  /-- Above or below every finite number. -/
  | infinite (negative : Bool)
  /-- Not a number. -/
  | nan
  deriving DecidableEq, Repr

namespace Binary64

/-- The lowest exponent. -/
def lowest : Int := -1074

/-- The highest exponent. -/
def highest : Int := 971

/-- The number 2 ^ 53, which every mantissa is below. -/
def mantissaBound : Nat := 0x20000000000000

/-- Zero with a sign. -/
def zero (negative : Bool) : Binary64 := .finite negative 0 lowest

/-- The number nearest to a ratio, a tie going to the even mantissa; what rounds past the largest
finite number is infinite. -/
def ofRatio (negative : Bool) (r : Ratio) : Binary64 :=
  if r.num = 0 then zero negative
  else
    let estimate : Int := max ((r.num.log2 : Int) - r.den.log2 - 53) lowest
    let exponent :=
      if mantissaBound ≤ (r.scale 2 (-estimate)).floor then estimate + 1 else estimate
    let mantissa := (r.scale 2 (-exponent)).round
    let carried := mantissa = mantissaBound
    let mantissa := if carried then mantissaBound / 2 else mantissa
    let exponent := if carried then exponent + 1 else exponent
    if highest < exponent then .infinite negative else .finite negative mantissa exponent

/-- The number nearest to `± coefficient · 10 ^ exponent`. Far outside the range of finite numbers
the answer is known without computing the power. -/
def ofDecimal (negative : Bool) (coefficient : Nat) (exponent : Int) : Binary64 :=
  let top := (digitCount coefficient : Int) + exponent
  if coefficient = 0 ∨ top < -330 then zero negative
  else if 310 < top then .infinite negative
  else ofRatio negative ((Ratio.mk coefficient 1).scale 10 exponent)

/-- The number nearest to an integer. -/
def ofInt (n : Int) : Binary64 := ofRatio (n < 0) ⟨n.natAbs, 1⟩

/-- The distance from zero of a finite number. -/
def magnitude (mantissa : Nat) (exponent : Int) : Ratio := (Ratio.mk mantissa 1).scale 2 exponent

/-- The integer with a sign and a distance from zero. -/
def signed (negative : Bool) (n : Nat) : Int := if negative then -(n : Int) else n

/-- The integer that a finite number becomes when its fraction is dropped. -/
def truncate? : Binary64 → Option Int
  | .finite negative mantissa exponent =>
    some (signed negative (magnitude mantissa exponent).floor)
  | .infinite _ => none
  | .nan => none

/-- Whether the number equals the integer exactly. -/
def eqInt (x : Binary64) (n : Int) : Bool :=
  match x with
  | .finite negative mantissa exponent =>
    let r := magnitude mantissa exponent
    r.num % r.den = 0 && signed negative r.floor = n
  | .infinite _ => false
  | .nan => false

/-- Whether two numbers are equal as numbers: the two zeros are, and what is not a number equals
nothing. -/
def eq : Binary64 → Binary64 → Bool
  | .finite n₁ m₁ e₁, .finite n₂ m₂ e₂ => m₁ = m₂ && e₁ = e₂ && (n₁ = n₂ || m₁ = 0)
  | .infinite n₁, .infinite n₂ => n₁ = n₂
  | _, _ => false

/-- Whether the number is below a natural number. -/
def isBelow (x : Binary64) (n : Nat) : Bool :=
  match x with
  | .finite negative mantissa exponent =>
    let r := magnitude mantissa exponent
    (negative && mantissa ≠ 0) || r.num < n * r.den
  | .infinite negative => negative
  | .nan => false

/-- Whether the number is one of the two zeros. -/
def isZero : Binary64 → Bool
  | .finite _ mantissa _ => mantissa = 0
  | _ => false

/-- Whether the number carries a minus sign. -/
def isNegative : Binary64 → Bool
  | .finite negative _ _ => negative
  | .infinite negative => negative
  | .nan => false

end Binary64

end LedgerGateway.Decimal
