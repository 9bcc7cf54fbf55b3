import LedgerGateway.Hex.Data

/-!
# Quantities

A quantity is a number on the wire: `0x` and its digits, with no zero in front but the one of zero
itself. Only numbers that are not negative have such a form.
-/

namespace LedgerGateway.Hex

/-- The wire form of a natural number. -/
def quantity (n : Nat) : String := marked (String.ofList (digits n))

/-- An integer below zero, which has no wire form. -/
structure NegativeQuantity where
  /-- The integer. -/
  value : Int
  deriving DecidableEq, Repr

/-- The wording of the refusal. -/
def NegativeQuantity.message (n : NegativeQuantity) : String :=
  s!"Cannot encode negative quantity: {n.value}"

/-- The wire form of an integer, refused below zero. -/
def quantity? : Int → Except NegativeQuantity String
  | .ofNat n => .ok (quantity n)
  | .negSucc n => .error ⟨.negSucc n⟩

end LedgerGateway.Hex
