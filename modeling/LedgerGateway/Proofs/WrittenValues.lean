import LedgerGateway.Log.Template
import LedgerGateway.Proofs.Outcomes
import LedgerGateway.Proofs.Rounding
import LedgerGateway.Proofs.WritableLiterals
import Mathlib.Data.Nat.Size

/-!
# How values are written into a template

A letter writes all values in one manner: as a text, as a literal, as a character or as a number of
some kind. Whether a number is written depends on its kind and on its size, and numbers that a
system knows are not too large: their integers have few digits.

* `Manner`, `exists_manner` — the manners of writing.
* `Proper` — numbers that a system knows; `isShort_integerOf`.
-/

namespace LedgerGateway.Decimal

theorem length_toDigits_le {base n k : ℕ} (two : 2 ≤ base) (some_ : 0 < k) (small : n.size ≤ k) :
    (Nat.toDigits base n).length ≤ k :=
  (Nat.length_toDigits_le_iff (by omega) some_).2
    ((Nat.size_le.1 small).trans_le (Nat.pow_le_pow_left two k))

theorem digitCount_le_iff {n k : ℕ} (some_ : 0 < k) : digitCount n ≤ k ↔ n < 10 ^ k :=
  Nat.length_toDigits_le_iff (by decide) some_

namespace Binary64

/-- An integer of 64 bits is not too large for a floating point number. -/
theorem ofInt_finite {n : ℤ} (small : n.natAbs.size ≤ 64) :
    ∃ negative mantissa exponent, ofInt n = .finite negative mantissa exponent := by
  by_cases none : n.natAbs = 0
  · exact ⟨_, 0, lowest, by rw [ofInt, ofRatio, if_pos none]; rfl⟩
  have value : (Ratio.mk n.natAbs 1).value = n.natAbs := by simp [Ratio.value]
  have positive : 0 < (Ratio.mk n.natAbs 1).value := (Ratio.num_ne_zero_iff Nat.one_pos).1 none
  have exponent := settled_exponent (r := ⟨n.natAbs, 1⟩) none Nat.one_pos
  have low : settled ⟨n.natAbs, 1⟩ + 1 ≤ highest := by
    rcases exponent.le with lowest | high
    · rw [lowest]
      decide
    · have size : (n.natAbs : ℚ) < 2 ^ 64 := by exact_mod_cast Nat.size_le.1 small
      rw [value] at high
      have power : (2 : ℚ) ^ settled ⟨n.natAbs, 1⟩ < 2 ^ (12 : ℤ) := by linarith
      have := (zpow_lt_zpow_iff_right₀ (by norm_num)).1 power
      unfold highest
      omega
  rw [ofInt, ofRatio_eq Nat.one_pos positive exponent, ofMantissa]
  split
  · exact ⟨_, _, _, if_neg (Int.not_lt.2 low)⟩
  · exact ⟨_, _, _, if_neg (Int.not_lt.2 (Int.le_of_lt low))⟩

/-- A finite number in lowest form is not out of all proportion. -/
theorem size_num_magnitude_le {negative : Bool} {mantissa : ℕ} {exponent : ℤ}
    (canonical : (finite negative mantissa exponent).Canonical) :
    (magnitude mantissa exponent).num.size ≤ 1024 := by
  obtain ⟨small, -, high, -⟩ := canonical
  unfold highest at high
  cases exponent with
  | ofNat k =>
    have below : mantissa * 2 ^ k < 2 ^ (53 + k) := by
      rw [pow_add]
      exact Nat.mul_lt_mul_of_pos_right small (by positivity)
    have bits : (mantissa * 2 ^ k).size ≤ 53 + k := Nat.size_le.2 below
    rw [Int.ofNat_eq_natCast] at high
    exact bits.trans (by omega)
  | negSucc k => exact (Nat.size_le.2 small).trans (by decide)

end Binary64

/-- A number of few binary digits has few decimal ones. -/
theorem isShort_of_size {n : ℤ} (small : n.natAbs.size ≤ 1024) : isShort n = true :=
  isShort_iff.2 ((length_toDigits_le (by decide) (by decide) small).trans (by decide))

end LedgerGateway.Decimal

namespace LedgerGateway.Datum

/-- Whatever has a literal has a text. -/
theorem textFault?_of_literalFault? {depth : ℕ} {d : Datum} (h : d.literalFault? depth = none) :
    d.textFault? depth = none := by
  unfold textFault?
  split
  · rfl
  · rfl
  · exact h

end LedgerGateway.Datum

namespace LedgerGateway.Log.Template

open Decimal (Binary64)

theorem textOf_eq_ok_iff {depth : ℕ} {v : Datum} {cs : List Char} :
    textOf depth v = .ok cs ↔ v.textFault? depth = none ∧ v.text.toList = cs := by
  rw [textOf]
  cases v.textFault? depth <;> simp

theorem literalOf_eq_ok_iff {depth : ℕ} {v : Datum} {cs : List Char} :
    literalOf depth v = .ok cs ↔ v.literalFault? depth = none ∧ v.literal.toList = cs := by
  rw [literalOf]
  cases v.literalFault? depth <;> simp

/-! ## Manners -/

/-- How a letter writes values, whatever they are. -/
inductive Manner (depth : Nat) (l : Layout) : Char → (Datum → Except Fault Written) → Prop where
  | text : Manner depth l 's' fun v => (textOf depth v).map (.ofText l)
  | literal : Manner depth l 'r' fun v => (literalOf depth v).map (.ofText l)
  | ascii : Manner depth l 'a' fun v => (literalOf depth v).map fun cs => .ofText l (inAscii cs)
  | character : Manner depth l 'c' fun v =>
      (characterOf v).map fun c => ⟨false, false, [], 0, [c], 0, []⟩
  | integer {letter : Char} : letter ∈ ['d', 'i', 'u'] →
      Manner depth l letter fun v => (integerOf letter v).bind (Written.ofInt l letter)
  | whole {letter : Char} : letter ∈ ['x', 'X', 'o'] →
      Manner depth l letter fun v => (wholeOf letter v).bind (Written.ofInt l letter)
  | float {letter : Char} : letter ∈ ['e', 'E', 'f', 'F', 'g', 'G'] →
      Manner depth l letter fun v => (floatOf v).map (Written.ofFloat l letter)

/-- A letter that writes a value writes all of them in one manner. -/
theorem exists_manner {depth : Nat} {l : Layout} {letter : Char} {v : Datum}
    {r : Except Fault Written} (h : write? depth l letter v = some r) :
    ∃ f, Manner depth l letter f ∧ r = f v ∧ ∀ v', write? depth l letter v' = some (f v') := by
  unfold write? at h
  split at h
  case h_1 => exact ⟨_, .text, (Option.some.inj h).symm, fun _ => rfl⟩
  case h_2 => exact ⟨_, .literal, (Option.some.inj h).symm, fun _ => rfl⟩
  case h_3 => exact ⟨_, .ascii, (Option.some.inj h).symm, fun _ => rfl⟩
  case h_4 => exact ⟨_, .character, (Option.some.inj h).symm, fun _ => rfl⟩
  case h_17 => cases h
  all_goals
    first
      | exact ⟨_, .integer (by decide), (Option.some.inj h).symm, fun _ => rfl⟩
      | exact ⟨_, .whole (by decide), (Option.some.inj h).symm, fun _ => rfl⟩
      | exact ⟨_, .float (by decide), (Option.some.inj h).symm, fun _ => rfl⟩

/-! ## Numbers -/

/-- If the value is a number, it is one that a system knows: an integer of 64 bits and a sign, or a
finite number in lowest form. -/
def Proper : Datum → Prop
  | .int n => n.natAbs.size ≤ 64
  | .float x => x.Canonical ∧ ∃ negative mantissa exponent, x = .finite negative mantissa exponent
  | _ => True

theorem size_integerOf_le {letter : Char} {v : Datum} {n : ℤ} (proper : Proper v)
    (h : integerOf letter v = .ok n) : n.natAbs.size ≤ 1024 := by
  cases v with
  | int m =>
    obtain rfl := Except.ok.inj h
    exact le_trans proper (by decide)
  | bool b =>
    obtain rfl := Except.ok.inj h
    cases b <;> simp
  | float x =>
    obtain ⟨canonical, negative, mantissa, exponent, rfl⟩ := proper
    obtain rfl := Except.ok.inj h
    have floor : (Binary64.magnitude mantissa exponent).floor ≤
        (Binary64.magnitude mantissa exponent).num := Nat.div_le_self _ _
    have size : (Binary64.signed negative (Binary64.magnitude mantissa exponent).floor).natAbs =
        (Binary64.magnitude mantissa exponent).floor := by
      cases negative <;> simp [Binary64.signed]
    rw [size]
    exact (Nat.size_le_size floor).trans (Binary64.size_num_magnitude_le canonical)
  | null => cases h
  | string s => cases h
  | moment m => cases h
  | list items => cases h
  | tuple items => cases h
  | table entries => cases h

theorem isShort_integerOf {letter : Char} {v : Datum} {n : ℤ} (proper : Proper v)
    (h : integerOf letter v = .ok n) : Decimal.isShort n = true :=
  Decimal.isShort_of_size (size_integerOf_le proper h)

theorem asInteger?_eq_some {v : Datum} {n : ℤ} (h : asInteger? v = some n) :
    v = .int n ∨ ∃ b : Bool, v = .bool b ∧ n = b.toNat := by
  cases v with
  | int m => exact .inl (congrArg Datum.int (Option.some.inj h))
  | bool b =>
    obtain rfl := Option.some.inj h
    cases b <;> simp
  | null => cases h
  | float x => cases h
  | string s => cases h
  | moment m => cases h
  | list items => cases h
  | tuple items => cases h
  | table entries => cases h

end LedgerGateway.Log.Template
