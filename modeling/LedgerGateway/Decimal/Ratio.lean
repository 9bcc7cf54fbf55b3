/-!
# Ratios, scaling and rounding

Exact arithmetic under the decimal and binary number formats. A ratio is a numerator over a
positive denominator. It is scaled by a power of a base, and its quotient is rounded to the nearest
whole number, a tie to the even one.

* `roundDiv_le` / `le_roundDiv` — the rounded quotient is at most half a unit away.
-/

namespace LedgerGateway.Decimal

/-- A ratio of two natural numbers. -/
structure Ratio where
  /-- The numerator. -/
  num : Nat
  /-- The denominator. -/
  den : Nat
  deriving DecidableEq, Repr

/-- The ratio times a power of the base. -/
def Ratio.scale (r : Ratio) (base : Nat) : Int → Ratio
  | .ofNat k => ⟨r.num * base.pow k, r.den⟩
  | .negSucc k => ⟨r.num, r.den * base.pow (k + 1)⟩

/-- The whole part of the ratio. -/
def Ratio.floor (r : Ratio) : Nat := r.num / r.den

/-- The whole number nearest to a quotient; of two at the same distance, the even one. -/
def roundDiv (num den : Nat) : Nat :=
  let q := num / den
  let twice := 2 * (num % den)
  if twice < den then q
  else if den < twice then q + 1
  else if q % 2 = 0 then q else q + 1

/-- The whole number nearest to the ratio. -/
def Ratio.round (r : Ratio) : Nat := roundDiv r.num r.den

/-- The digits of a natural number in base ten. -/
def digits (n : Nat) : List Char := Nat.toDigits 10 n

/-- How many digits a natural number has in base ten. -/
def digitCount (n : Nat) : Nat := (digits n).length

/-- The exponent `k` with `10 ^ (k - 1) ≤ r < 10 ^ k`, for a ratio above zero. -/
def Ratio.magnitude (r : Ratio) : Int :=
  let shift : Int := (digitCount r.den : Int) - digitCount r.num
  let shifted := r.scale 10 shift
  if shifted.den ≤ shifted.num then 1 - shift else -shift

theorem roundDiv_le (num den : Nat) : 2 * den * roundDiv num den ≤ 2 * num + den := by
  have split : den * (num / den) + num % den = num := Nat.div_add_mod num den
  have step : den * (num / den + 1) = den * (num / den) + den := Nat.mul_succ _ _
  have low : 2 * (den * (num / den)) ≤ 2 * num + den := by omega
  simp only [roundDiv]
  rw [Nat.mul_assoc]
  split
  · exact low
  · split
    · rw [step]; omega
    · split
      · exact low
      · rw [step]; omega

theorem le_roundDiv {num den : Nat} (positive : 0 < den) :
    2 * num ≤ 2 * den * roundDiv num den + den := by
  have split : den * (num / den) + num % den = num := Nat.div_add_mod num den
  have step : den * (num / den + 1) = den * (num / den) + den := Nat.mul_succ _ _
  have small : num % den < den := Nat.mod_lt num positive
  simp only [roundDiv]
  rw [Nat.mul_assoc]
  split
  · omega
  · split
    · rw [step]; omega
    · split
      · omega
      · rw [step]; omega

end LedgerGateway.Decimal
