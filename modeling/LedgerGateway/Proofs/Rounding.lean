import LedgerGateway.Decimal.Binary64
import Mathlib.Algebra.Order.Field.Power
import Mathlib.Algebra.Order.Field.Rat
import Mathlib.Algebra.Order.Ring.Abs
import Mathlib.Tactic.FieldSimp
import Mathlib.Tactic.Linarith
import Mathlib.Tactic.NormNum
import Mathlib.Tactic.Positivity
import Mathlib.Tactic.Ring

/-!
# Rounding to floating point numbers

Rounding sees the number that a ratio stands for and nothing else of it. The exponent is the one
under which the mantissa has 53 digits, or the lowest; a mantissa that is rounded up to 2 ^ 53 moves
to the next one.

* `Ratio.round_eq`, `Ratio.round_congr` — the whole number nearest to a ratio.
* `Exponent.unique`, `ofRatio_eq` — the rounded number, told by the exponent that suits.
* `ofDecimal_congr` — how a decimal number is written does not matter.
* `ofDecimal_canonical` — what is rounded is in lowest form.
-/

namespace LedgerGateway.Decimal

/-! ## Ratios as numbers -/

namespace Ratio

/-- The number that the ratio stands for. -/
def value (r : Ratio) : ℚ := r.num / r.den

variable {r r' : Ratio}

theorem den_scale_pos {base : ℕ} (hb : 0 < base) (hd : 0 < r.den) (k : ℤ) :
    0 < (r.scale base k).den := by
  cases k with
  | ofNat k => exact hd
  | negSucc k => exact Nat.mul_pos hd (Nat.pow_pos hb)

theorem value_scale (r : Ratio) (base : ℕ) (k : ℤ) :
    (r.scale base k).value = r.value * (base : ℚ) ^ k := by
  cases k with
  | ofNat k =>
    show ((r.num * base ^ k : ℕ) : ℚ) / r.den = _
    rw [Int.ofNat_eq_natCast, zpow_natCast, value]
    push_cast
    ring
  | negSucc k =>
    show (r.num : ℚ) / ((r.den * base ^ (k + 1) : ℕ) : ℚ) = _
    rw [zpow_negSucc, value]
    push_cast
    rw [div_mul_eq_div_div]
    rfl

theorem value_scale_neg (r : Ratio) {base : ℕ} (hb : 0 < base) (k : ℤ) :
    (r.scale base (-k)).value * (base : ℚ) ^ k = r.value := by
  have hb' : (base : ℚ) ≠ 0 := Nat.cast_ne_zero.2 (Nat.pos_iff_ne_zero.1 hb)
  rw [value_scale, mul_assoc, zpow_neg, inv_mul_cancel₀ (zpow_ne_zero k hb'), mul_one]

theorem num_ne_zero_iff (hd : 0 < r.den) : r.num ≠ 0 ↔ 0 < r.value := by
  have hd' : (0 : ℚ) < r.den := Nat.cast_pos.2 hd
  rw [value, div_pos_iff_of_pos_right hd', Nat.cast_pos, Nat.pos_iff_ne_zero]

theorem value_nonneg (r : Ratio) : 0 ≤ r.value := by
  unfold value
  positivity

theorem le_floor_iff (hd : 0 < r.den) {k : ℕ} : k ≤ r.floor ↔ (k : ℚ) ≤ r.value := by
  have hd' : (0 : ℚ) < r.den := Nat.cast_pos.2 hd
  rw [floor, Nat.le_div_iff_mul_le hd, value, le_div_iff₀ hd']
  exact_mod_cast Iff.rfl

theorem round_near (hd : 0 < r.den) : |r.value - r.round| ≤ 1 / 2 := by
  have hd' : (0 : ℚ) < r.den := Nat.cast_pos.2 hd
  have hnum : (r.num : ℚ) = r.den * r.value := by
    rw [value]
    field_simp
  have above : ((2 * r.den * r.round : ℕ) : ℚ) ≤ (2 * r.num + r.den : ℕ) :=
    Nat.cast_le.2 (roundDiv_le r.num r.den)
  have below : ((2 * r.num : ℕ) : ℚ) ≤ (2 * r.den * r.round + r.den : ℕ) :=
    Nat.cast_le.2 (le_roundDiv hd)
  push_cast at above below
  rw [hnum] at above below
  rw [abs_le]
  constructor
  · have : (r.den : ℚ) * (2 * r.round) ≤ r.den * (2 * r.value + 1) := by linarith
    have := le_of_mul_le_mul_left this hd'
    linarith
  · have : (r.den : ℚ) * (2 * r.value) ≤ r.den * (2 * r.round + 1) := by linarith
    have := le_of_mul_le_mul_left this hd'
    linarith

/-- A whole number less than half a unit away is the nearest one. -/
theorem round_eq (hd : 0 < r.den) {k : ℕ} (near : |r.value - k| < 1 / 2) : r.round = k := by
  have h := abs_le.1 (round_near hd)
  have h' := abs_lt.1 near
  -- Two whole numbers that are less than one apart are the same.
  have low : (r.round : ℚ) < k + 1 := by linarith
  have high : (k : ℚ) < r.round + 1 := by linarith
  have low' : r.round < k + 1 := by exact_mod_cast low
  have high' : k < r.round + 1 := by exact_mod_cast high
  omega

theorem roundDiv_mul {k : ℕ} (hk : 0 < k) (num den : ℕ) :
    roundDiv (k * num) (k * den) = roundDiv num den := by
  have half : 2 * (k * (num % den)) < k * den ↔ 2 * (num % den) < den := by
    rw [Nat.mul_left_comm]
    exact Nat.mul_lt_mul_left hk
  have half' : k * den < 2 * (k * (num % den)) ↔ den < 2 * (num % den) := by
    rw [Nat.mul_left_comm]
    exact Nat.mul_lt_mul_left hk
  simp only [roundDiv, Nat.mul_div_mul_left num den hk, Nat.mul_mod_mul_left, half, half']

theorem cross_of_value_eq (hd : 0 < r.den) (hd' : 0 < r'.den) (h : r.value = r'.value) :
    r.num * r'.den = r'.num * r.den := by
  have hq : (r.den : ℚ) ≠ 0 := Nat.cast_ne_zero.2 (Nat.pos_iff_ne_zero.1 hd)
  have hq' : (r'.den : ℚ) ≠ 0 := Nat.cast_ne_zero.2 (Nat.pos_iff_ne_zero.1 hd')
  rw [value, value, div_eq_div_iff hq hq'] at h
  exact_mod_cast h

/-- Rounding sees only the number that a ratio stands for. -/
theorem round_congr (hd : 0 < r.den) (hd' : 0 < r'.den) (h : r.value = r'.value) :
    r.round = r'.round := by
  have cross := cross_of_value_eq hd hd' h
  rw [round, round, ← roundDiv_mul hd' r.num, ← roundDiv_mul hd r'.num, Nat.mul_comm r'.den r.num,
    cross, Nat.mul_comm r.den r'.num, Nat.mul_comm r'.den]

/-- A ratio lies between two powers of two that are told by the lengths of its parts. -/
theorem value_log2 (hn : r.num ≠ 0) (hd : 0 < r.den) :
    (2 : ℚ) ^ ((r.num.log2 : ℤ) - r.den.log2 - 1) < r.value ∧
      r.value < (2 : ℚ) ^ ((r.num.log2 : ℤ) - r.den.log2 + 1) := by
  have hd' : (0 : ℚ) < r.den := Nat.cast_pos.2 hd
  have n₁ : (2 : ℚ) ^ r.num.log2 ≤ r.num := by exact_mod_cast Nat.log2_self_le hn
  have n₂ : (r.num : ℚ) < 2 ^ (r.num.log2 + 1) := by exact_mod_cast Nat.lt_log2_self
  have d₁ : (2 : ℚ) ^ r.den.log2 ≤ r.den := by
    exact_mod_cast Nat.log2_self_le (Nat.pos_iff_ne_zero.1 hd)
  have d₂ : (r.den : ℚ) < 2 ^ (r.den.log2 + 1) := by exact_mod_cast Nat.lt_log2_self
  have two : (2 : ℚ) ≠ 0 := by norm_num
  constructor
  · have he : (2 : ℚ) ^ ((r.num.log2 : ℤ) - r.den.log2 - 1) =
        2 ^ r.num.log2 / 2 ^ (r.den.log2 + 1) := by
      rw [sub_sub, zpow_sub₀ two, zpow_natCast]
      exact_mod_cast rfl
    rw [he, value]
    exact div_lt_div₀' n₁ d₂ (by positivity) hd'
  · have he : (2 : ℚ) ^ ((r.num.log2 : ℤ) - r.den.log2 + 1) =
        2 ^ (r.num.log2 + 1) / 2 ^ r.den.log2 := by
      rw [sub_add_eq_add_sub, zpow_sub₀ two, zpow_natCast]
      exact_mod_cast rfl
    rw [he, value]
    exact div_lt_div₀ n₂ d₁ (by positivity) (by positivity)

end Ratio

/-! ## The exponent of a rounded number -/

namespace Binary64

/-- The exponent under which the mantissa of a number has 53 digits, or the lowest one. -/
structure Exponent (x : ℚ) (e : ℤ) : Prop where
  lowest_le : lowest ≤ e
  lt : x < 2 ^ 53 * (2 : ℚ) ^ e
  le : e = lowest ∨ 2 ^ 52 * (2 : ℚ) ^ e ≤ x

theorem two_zpow_succ (e : ℤ) : (2 : ℚ) ^ (e + 1) = 2 * 2 ^ e := by
  rw [zpow_add_one₀ (by norm_num)]
  ring

theorem Exponent.unique {x : ℚ} {e e' : ℤ} (h : Exponent x e) (h' : Exponent x e') : e = e' := by
  -- Under the higher exponent the number would have at least 53 digits more.
  have not_lt (a b : ℤ) (ha : Exponent x a) (hb : Exponent x b) : ¬ a < b := by
    intro hab
    have hbx : 2 ^ 52 * (2 : ℚ) ^ b ≤ x := by
      refine hb.le.resolve_left fun hlow => ?_
      have := ha.lowest_le
      omega
    have hpow : (2 : ℚ) ^ (a + 1) ≤ 2 ^ b := zpow_le_zpow_right₀ (by norm_num) (by omega)
    rw [two_zpow_succ] at hpow
    have := ha.lt
    linarith
  have := not_lt e e' h h'
  have := not_lt e' e h' h
  omega

/-- The exponent that rounding tries first. -/
def estimate (r : Ratio) : ℤ := max ((r.num.log2 : ℤ) - r.den.log2 - 53) lowest

/-- The exponent that rounding takes. -/
def settled (r : Ratio) : ℤ :=
  if mantissaBound ≤ (r.scale 2 (-estimate r)).floor then estimate r + 1 else estimate r

theorem mantissaBound_eq : mantissaBound = 2 ^ 53 := rfl

variable {r r' : Ratio}

theorem settled_exponent (hn : r.num ≠ 0) (hd : 0 < r.den) : Exponent r.value (settled r) := by
  obtain ⟨low, high⟩ := r.value_log2 hn hd
  have pos (e : ℤ) : (0 : ℚ) < 2 ^ e := zpow_pos (by norm_num) e
  have floor_iff (e : ℤ) : mantissaBound ≤ (r.scale 2 (-e)).floor ↔
      2 ^ 53 * (2 : ℚ) ^ e ≤ r.value := by
    rw [Ratio.le_floor_iff (Ratio.den_scale_pos Nat.two_pos hd _), Ratio.value_scale,
      mantissaBound_eq, zpow_neg, ← div_eq_mul_inv, Nat.cast_ofNat, le_div_iff₀ (pos e)]
    norm_num
  have lowest_le : lowest ≤ estimate r := Int.le_max_right _ _
  -- The estimate is one too low or right.
  have lt : r.value < 2 ^ 54 * (2 : ℚ) ^ estimate r := by
    have he : (r.num.log2 : ℤ) - r.den.log2 + 1 ≤ estimate r + 54 := by
      have : (r.num.log2 : ℤ) - r.den.log2 - 53 ≤ estimate r := Int.le_max_left _ _
      omega
    have hp : (2 : ℚ) ^ (estimate r + 54) = 2 ^ 54 * 2 ^ estimate r := by
      rw [zpow_add₀ (by norm_num), mul_comm]
      norm_num
    rw [← hp]
    exact high.trans_le (zpow_le_zpow_right₀ (by norm_num) he)
  have le : estimate r = lowest ∨ 2 ^ 52 * (2 : ℚ) ^ estimate r ≤ r.value := by
    rcases max_choice ((r.num.log2 : ℤ) - r.den.log2 - 53) lowest with hm | hm
    · right
      have he : estimate r = (r.num.log2 : ℤ) - r.den.log2 - 53 := hm
      have hp : (2 : ℚ) ^ ((r.num.log2 : ℤ) - r.den.log2 - 1) = 2 ^ 52 * 2 ^ estimate r := by
        rw [he, show (r.num.log2 : ℤ) - r.den.log2 - 1 = 52 + (r.num.log2 - r.den.log2 - 53) by
          ring, zpow_add₀ (by norm_num)]
        norm_num
      exact hp ▸ low.le
    · exact .inl hm
  unfold settled
  split
  · next above =>
    rw [floor_iff] at above
    refine ⟨by omega, ?_, .inr ?_⟩
    · rw [two_zpow_succ]
      linarith
    · rw [two_zpow_succ]
      linarith
  · next below =>
    rw [floor_iff, not_le] at below
    exact ⟨lowest_le, below, le⟩

/-- The number of a rounded mantissa, which may be one too long. -/
def ofMantissa (negative : Bool) (mantissa : ℕ) (exponent : ℤ) : Binary64 :=
  if mantissa = mantissaBound then
    if highest < exponent + 1 then .infinite negative
    else .finite negative (mantissaBound / 2) (exponent + 1)
  else if highest < exponent then .infinite negative
  else .finite negative mantissa exponent

/-- A ratio above zero is rounded under the exponent that suits the number it stands for. -/
theorem ofRatio_eq (hd : 0 < r.den) (positive : 0 < r.value) {e : ℤ} (h : Exponent r.value e)
    (negative : Bool) : ofRatio negative r = ofMantissa negative (r.scale 2 (-e)).round e := by
  have hn : r.num ≠ 0 := (Ratio.num_ne_zero_iff hd).2 positive
  obtain rfl : settled r = e := (settled_exponent hn hd).unique h
  have folded : ofRatio negative r =
      if highest < (if (r.scale 2 (-settled r)).round = mantissaBound then settled r + 1
        else settled r) then .infinite negative
      else .finite negative
        (if (r.scale 2 (-settled r)).round = mantissaBound then mantissaBound / 2
          else (r.scale 2 (-settled r)).round)
        (if (r.scale 2 (-settled r)).round = mantissaBound then settled r + 1
          else settled r) := by
    rw [ofRatio, if_neg hn]
    rfl
  rw [folded, ofMantissa]
  by_cases carried : (r.scale 2 (-settled r)).round = mantissaBound
  · simp only [if_pos carried]
  · simp only [if_neg carried]

/-- Rounding sees only the number that a ratio stands for. -/
theorem ofRatio_congr (hd : 0 < r.den) (hd' : 0 < r'.den) (h : r.value = r'.value)
    (negative : Bool) : ofRatio negative r = ofRatio negative r' := by
  by_cases hn : r.num ≠ 0
  · have positive : 0 < r.value := (Ratio.num_ne_zero_iff hd).1 hn
    have exponent := settled_exponent hn hd
    have same : (r.scale 2 (-settled r)).round = (r'.scale 2 (-settled r)).round := by
      refine Ratio.round_congr (Ratio.den_scale_pos Nat.two_pos hd _)
        (Ratio.den_scale_pos Nat.two_pos hd' _) ?_
      rw [Ratio.value_scale, Ratio.value_scale, h]
    rw [ofRatio_eq hd positive exponent, same,
      ofRatio_eq hd' (h ▸ positive) (h ▸ exponent)]
  · have hn' : ¬ r'.num ≠ 0 := by
      rwa [Ratio.num_ne_zero_iff hd', ← h, ← Ratio.num_ne_zero_iff hd]
    rw [ofRatio, ofRatio, if_pos (not_not.1 hn), if_pos (not_not.1 hn')]

/-! ## Lowest form -/

/-- The number is in lowest form, if it is finite. -/
def Canonical : Binary64 → Prop
  | .finite _ mantissa exponent => mantissa < 2 ^ 53 ∧ lowest ≤ exponent ∧ exponent ≤ highest ∧
      (exponent = lowest ∨ 2 ^ 52 ≤ mantissa)
  | _ => True

theorem zero_canonical (negative : Bool) : (zero negative).Canonical := by
  refine ⟨by norm_num, le_refl _, ?_, .inl rfl⟩
  decide

theorem ofRatio_canonical (hd : 0 < r.den) (negative : Bool) :
    (ofRatio negative r).Canonical := by
  by_cases hn : r.num ≠ 0
  · have positive : 0 < r.value := (Ratio.num_ne_zero_iff hd).1 hn
    have exponent := settled_exponent hn hd
    rw [ofRatio_eq hd positive exponent]
    generalize settled r = e at exponent
    have pow : (0 : ℚ) < 2 ^ e := zpow_pos (by norm_num) e
    have scaled : (r.scale 2 (-e)).value * 2 ^ e = r.value := r.value_scale_neg Nat.two_pos e
    have near := abs_le.1 (Ratio.round_near (Ratio.den_scale_pos Nat.two_pos hd (-e)))
    generalize (r.scale 2 (-e)).round = m at near
    generalize (r.scale 2 (-e)).value = x at near scaled
    have below : m ≤ 2 ^ 53 := by
      have hx : x < 2 ^ 53 := by
        have := exponent.lt
        rw [← scaled] at this
        exact lt_of_mul_lt_mul_right this pow.le
      have : (m : ℚ) < 2 ^ 53 + 1 := by linarith
      have : m < 2 ^ 53 + 1 := by exact_mod_cast this
      omega
    have above : e = lowest ∨ 2 ^ 52 ≤ m := by
      refine exponent.le.imp id fun hle => ?_
      rw [← scaled] at hle
      have hx : 2 ^ 52 ≤ x := le_of_mul_le_mul_right hle pow
      have : (2 ^ 52 : ℚ) < m + 1 := by linarith
      have : 2 ^ 52 < m + 1 := by exact_mod_cast this
      omega
    have low := exponent.lowest_le
    -- A mantissa that was rounded up to 2 ^ 53 is halved under the next exponent.
    unfold ofMantissa
    split_ifs with carried far far
    · trivial
    · exact ⟨by decide, by omega, by omega, .inr (by decide)⟩
    · trivial
    · rw [mantissaBound_eq] at carried
      exact ⟨by omega, low, by omega, above⟩
  · rw [ofRatio, if_pos (not_not.1 hn)]
    exact zero_canonical negative

/-- The sign has no part in rounding. -/
theorem ofRatio_sign (hd : 0 < r.den) {mantissa : ℕ} {exponent : ℤ}
    (h : ofRatio false r = .finite false mantissa exponent) (negative : Bool) :
    ofRatio negative r = .finite negative mantissa exponent := by
  by_cases hn : r.num ≠ 0
  · have positive : 0 < r.value := (Ratio.num_ne_zero_iff hd).1 hn
    rw [ofRatio_eq hd positive (settled_exponent hn hd)] at h ⊢
    unfold ofMantissa at h ⊢
    split_ifs at h ⊢ <;> cases h <;> rfl
  · rw [ofRatio, if_pos (not_not.1 hn)] at h ⊢
    simp only [zero, finite.injEq, true_and] at h ⊢
    exact h

/-! ## Decimal numbers -/

/-- How many digits a number has in front of its point, or, if it is below one, behind it zeros
count against it. -/
structure Magnitude (x : ℚ) (k : ℤ) : Prop where
  le : (10 : ℚ) ^ (k - 1) ≤ x
  lt : x < (10 : ℚ) ^ k

theorem Magnitude.unique {x : ℚ} {k k' : ℤ} (h : Magnitude x k) (h' : Magnitude x k') :
    k = k' := by
  have low := (zpow_lt_zpow_iff_right₀ (by norm_num : (1 : ℚ) < 10)).1 (h.le.trans_lt h'.lt)
  have high := (zpow_lt_zpow_iff_right₀ (by norm_num : (1 : ℚ) < 10)).1 (h'.le.trans_lt h.lt)
  omega

theorem Magnitude.scale {x : ℚ} {k : ℤ} (h : Magnitude x k) (e : ℤ) :
    Magnitude (x * 10 ^ e) (k + e) := by
  have ten : (10 : ℚ) ≠ 0 := by norm_num
  have pow : (0 : ℚ) < 10 ^ e := zpow_pos (by norm_num) e
  constructor
  · rw [add_sub_right_comm, zpow_add₀ ten]
    exact mul_le_mul_of_nonneg_right h.le pow.le
  · rw [zpow_add₀ ten]
    exact mul_lt_mul_of_pos_right h.lt pow

theorem digitCount_pos (n : ℕ) : 0 < digitCount n := Nat.length_toDigits_pos

theorem lt_pow_digitCount (n : ℕ) : n < 10 ^ digitCount n :=
  (Nat.length_toDigits_le_iff (by decide) (digitCount_pos n)).1 (Nat.le_refl _)

theorem pow_digitCount_le {n : ℕ} (hn : n ≠ 0) : 10 ^ (digitCount n - 1) ≤ n := by
  by_cases one : digitCount n - 1 = 0
  · rw [one]
    omega
  · by_contra! below
    have := (Nat.length_toDigits_le_iff (by decide) (by omega)).2 below
    have count : (Nat.toDigits 10 n).length = digitCount n := rfl
    omega

theorem magnitude_natCast {n : ℕ} (hn : n ≠ 0) : Magnitude (n : ℚ) (digitCount n) := by
  have hp := digitCount_pos n
  constructor
  · rw [show (digitCount n : ℤ) - 1 = (digitCount n - 1 : ℕ) by omega, zpow_natCast]
    exact_mod_cast pow_digitCount_le hn
  · rw [zpow_natCast]
    exact_mod_cast lt_pow_digitCount n

theorem value_decimal (coefficient : ℕ) (exponent : ℤ) :
    ((Ratio.mk coefficient 1).scale 10 exponent).value = coefficient * (10 : ℚ) ^ exponent := by
  rw [Ratio.value_scale, Ratio.value]
  norm_num

/-- Only the number counts, not how it is written as a coefficient and a power of ten. -/
theorem ofDecimal_congr {c c' : ℕ} {e e' : ℤ}
    (h : (c : ℚ) * (10 : ℚ) ^ e = c' * (10 : ℚ) ^ e') (negative : Bool) :
    ofDecimal negative c e = ofDecimal negative c' e' := by
  have pow (k : ℤ) : (10 : ℚ) ^ k ≠ 0 := zpow_ne_zero k (by norm_num)
  have zero_iff : c = 0 ↔ c' = 0 := by
    rw [← Nat.cast_eq_zero (R := ℚ), ← Nat.cast_eq_zero (R := ℚ), ← mul_eq_zero_iff_right (pow e),
      h, mul_eq_zero_iff_right (pow e')]
  by_cases hc : c = 0
  · rw [ofDecimal, ofDecimal, if_pos (.inl hc), if_pos (.inl (zero_iff.1 hc))]
  · have hc' : c' ≠ 0 := fun h0 => hc (zero_iff.2 h0)
    -- The same number has the same size, so both ways of writing it take the same branch.
    have top : (digitCount c : ℤ) + e = digitCount c' + e' :=
      ((magnitude_natCast hc).scale e).unique (h ▸ (magnitude_natCast hc').scale e')
    have same : ofRatio negative ((Ratio.mk c 1).scale 10 e) =
        ofRatio negative ((Ratio.mk c' 1).scale 10 e') := by
      refine ofRatio_congr (Ratio.den_scale_pos (by decide) Nat.one_pos _)
        (Ratio.den_scale_pos (by decide) Nat.one_pos _) ?_ negative
      rw [value_decimal, value_decimal, h]
    simp only [ofDecimal, hc, hc', false_or, top, same]

theorem ofDecimal_canonical (negative : Bool) (coefficient : ℕ) (exponent : ℤ) :
    (ofDecimal negative coefficient exponent).Canonical := by
  rw [ofDecimal]
  split_ifs
  · exact zero_canonical negative
  · trivial
  · exact ofRatio_canonical (Ratio.den_scale_pos (by decide) Nat.one_pos _) negative

theorem ofDecimal_sign {c : ℕ} {e : ℤ} {mantissa : ℕ} {exponent : ℤ}
    (h : ofDecimal false c e = .finite false mantissa exponent) (negative : Bool) :
    ofDecimal negative c e = .finite negative mantissa exponent := by
  rw [ofDecimal] at h ⊢
  split_ifs at h ⊢
  · simp only [zero, finite.injEq, true_and] at h ⊢
    exact h
  · exact ofRatio_sign (Ratio.den_scale_pos (by decide) Nat.one_pos _) h negative

end Binary64

end LedgerGateway.Decimal
