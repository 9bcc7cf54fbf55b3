import LedgerGateway.Decimal.Shortest

/-!
# Floating point numbers with a given number of places

Three notations, each exact: the number is rounded once, from its exact value, a tie to the even
digit. `fixed` has the given number of places behind the point, `exponential` one digit in front of
the point and a power of ten, and `general` the given number of significant digits in whichever of
the two notations its size asks for. All three write the distance from zero; the sign is the
caller's.
-/

namespace LedgerGateway.Decimal

/-- Digits with a point before the last `places` of them. With no places the point is written only
if it is asked for. -/
def withPoint (ds : List Char) (places : Nat) (keepPoint : Bool) : List Char :=
  let ds := List.replicate (places + 1 - ds.length) '0' ++ ds
  let whole := ds.length - places
  ds.take whole ++ (if places = 0 ∧ !keepPoint then [] else '.' :: ds.drop whole)

/-- The ratio with a number of places behind the point. -/
def Ratio.fixed (r : Ratio) (places : Nat) (keepPoint : Bool) : List Char :=
  withPoint (digits (r.scale 10 places).round) places keepPoint

/-- The first `count` digits of a ratio, rounded, and the power of ten of the first of them. -/
def Ratio.leading (r : Ratio) (count : Nat) : List Char × Int :=
  if r.num = 0 then (List.replicate count '0', 0)
  else
    let top := r.magnitude
    let rounded := (r.scale 10 (count - top)).round
    if rounded = Nat.pow 10 count then (digits (Nat.pow 10 (count - 1)), top)
    else (digits rounded, top - 1)

/-- The ratio with one digit in front of the point, `places` behind it, and a power of ten. -/
def Ratio.exponential (r : Ratio) (places : Nat) (keepPoint : Bool) : List Char :=
  let (ds, e) := r.leading (places + 1)
  withPoint ds places keepPoint ++ Scientific.exponentText e

/-- Drops zeros behind the point, and a point with nothing behind it. -/
def dropTrailingZeros (s : List Char) : List Char :=
  if s.contains '.' then
    let kept := (s.reverse.dropWhile (· = '0'))
    (match kept with
      | '.' :: rest => rest
      | rest => rest).reverse
  else s

/-- The ratio with a number of significant digits. Numbers from 0.0001 up to below the precision
are positional. Zeros at the end are kept only together with the point. -/
def Ratio.general (r : Ratio) (precision : Nat) (keepPoint : Bool) : List Char :=
  let count := max precision 1
  let (ds, e) := r.leading count
  let tidy (s : List Char) := if keepPoint then s else dropTrailingZeros s
  if -4 ≤ e ∧ e < count then
    tidy (withPoint ds (count - 1 - e).toNat keepPoint)
  else
    tidy (withPoint ds (count - 1) keepPoint) ++ Scientific.exponentText e

end LedgerGateway.Decimal
