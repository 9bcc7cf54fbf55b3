/-!
# Hexadecimal digits

Numbers are written in lower case and read in either case. `digits` writes a number without
superfluous zeros, `padded` with at least a given number of digits, and `value?` reads them back.

* `value?_digits` — reading the digits of a number gives the number.
-/

namespace LedgerGateway.Hex

/-- The value of a hexadecimal digit of either case. -/
def digitValue? (c : Char) : Option Nat :=
  let n := c.toNat
  if 48 ≤ n ∧ n ≤ 57 then some (n - 48)
  else if 97 ≤ n ∧ n ≤ 102 then some (n - 87)
  else if 65 ≤ n ∧ n ≤ 70 then some (n - 55)
  else none

/-- Whether the character is a hexadecimal digit of either case. -/
def isDigit (c : Char) : Bool := (digitValue? c).isSome

/-- The lower case digits of a number, with no zero in front; zero itself is one digit. -/
def digits (n : Nat) : List Char :=
  if n < 16 then [Nat.digitChar n] else digits (n / 16) ++ [Nat.digitChar (n % 16)]
termination_by n
decreasing_by omega

/-- The digits of a number, filled up with zeros in front to the given width. -/
def padded (width n : Nat) : List Char :=
  List.replicate (width - (digits n).length) '0' ++ digits n

/-- One more digit behind a number. -/
def pushDigit (n : Nat) (c : Char) : Option Nat := (digitValue? c).map (n * 16 + ·)

/-- The number that a run of digits spells; the empty run spells zero. -/
def value? (cs : List Char) : Option Nat := cs.foldlM pushDigit 0

theorem digitValue?_digitChar {n : Nat} (h : n < 16) : digitValue? (Nat.digitChar n) = some n := by
  have : ∀ m : Fin 16, digitValue? (Nat.digitChar m.val) = some m.val := by decide
  exact this ⟨n, h⟩

theorem value?_append_singleton (cs : List Char) (c : Char) :
    value? (cs ++ [c]) = (value? cs).bind (pushDigit · c) := by
  simp [value?, List.foldlM_append]

/-- Reading the digits of a number gives the number. -/
theorem value?_digits (n : Nat) : value? (digits n) = some n := by
  induction n using Nat.strongRecOn with
  | ind n ih =>
      rw [digits]
      split
      · next small => simp [value?, pushDigit, digitValue?_digitChar small]
      · next large =>
        rw [value?_append_singleton, ih (n / 16) (by omega)]
        simp only [Option.bind_some, pushDigit,
          digitValue?_digitChar (Nat.mod_lt n (by decide : 0 < 16)), Option.map_some]
        congr 1
        omega

end LedgerGateway.Hex
