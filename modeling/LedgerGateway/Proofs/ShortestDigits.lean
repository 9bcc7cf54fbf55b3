import LedgerGateway.Decimal.Shortest
import LedgerGateway.Proofs.Rounding

/-!
# The shortest digits read back as their number

Seventeen digits always suffice: the decimal number nearest to a floating point number is then away
from it by less than half the distance of its neighbours, also below a power of two, where they are
twice as dense. So the search for the shortest digits finds some that read back, or ends with these.

* `Ratio.magnitude_spec` — how many digits a ratio has in front of its point.
* `ofDecimal_of_near` — a decimal number that is near enough reads back.
* `shortest_spec` — the digits that are written read back.
-/

namespace LedgerGateway.Decimal

/-! ## The size of a ratio -/

namespace Ratio

open Binary64 (Magnitude magnitude_natCast)

variable {r : Ratio}

theorem magnitude_spec (hn : r.num ≠ 0) (hd : 0 < r.den) : Magnitude r.value r.magnitude := by
  have ten : (10 : ℚ) ≠ 0 := by norm_num
  have pow (k : ℤ) : (0 : ℚ) < 10 ^ k := zpow_pos (by norm_num) k
  have hd₀ : r.den ≠ 0 := Nat.pos_iff_ne_zero.1 hd
  have n := magnitude_natCast hn
  have d := magnitude_natCast hd₀
  have hd' : (0 : ℚ) < r.den := Nat.cast_pos.2 hd
  have hnum : (r.num : ℚ) = r.value * r.den := by
    rw [value]
    field_simp
  obtain ⟨shift, hshift⟩ : ∃ k : ℤ, k = (digitCount r.den : ℤ) - digitCount r.num := ⟨_, rfl⟩
  have low : (10 : ℚ) ^ (-shift - 1) ≤ r.value := by
    have split : (10 : ℚ) ^ ((digitCount r.num : ℤ) - 1) =
        10 ^ (-shift - 1) * 10 ^ (digitCount r.den : ℤ) := by
      rw [← zpow_add₀ ten]
      congr 1
      omega
    have := n.le
    rw [hnum, split] at this
    refine le_of_mul_le_mul_right (this.trans ?_) (pow (digitCount r.den))
    exact mul_le_mul_of_nonneg_left d.lt.le r.value_nonneg
  have high : r.value < (10 : ℚ) ^ (1 - shift) := by
    have split : (10 : ℚ) ^ (digitCount r.num : ℤ) =
        10 ^ (1 - shift) * 10 ^ ((digitCount r.den : ℤ) - 1) := by
      rw [← zpow_add₀ ten]
      congr 1
      omega
    have := n.lt
    rw [hnum, split] at this
    refine lt_of_mul_lt_mul_right (lt_of_le_of_lt ?_ this) (pow ((digitCount r.den : ℤ) - 1)).le
    exact mul_le_mul_of_nonneg_left d.le r.value_nonneg
  -- The test tells on which side of `10 ^ -shift` the ratio is.
  have shifted_iff : (r.scale 10 shift).den ≤ (r.scale 10 shift).num ↔
      (10 : ℚ) ^ (-shift) ≤ r.value := by
    have hs := den_scale_pos (by decide : 0 < 10) hd shift
    have hs' : (0 : ℚ) < (r.scale 10 shift).den := Nat.cast_pos.2 hs
    rw [← Nat.cast_le (α := ℚ), ← one_le_div₀ hs']
    show 1 ≤ (r.scale 10 shift).value ↔ _
    rw [value_scale, zpow_neg, inv_le_iff_one_le_mul₀ (pow shift)]
    norm_num
  have eq : r.magnitude = if (10 : ℚ) ^ (-shift) ≤ r.value then 1 - shift else -shift := by
    rw [magnitude, ← hshift]
    simp only [shifted_iff]
  rw [eq]
  split
  · next above => exact ⟨by rwa [show (1 : ℤ) - shift - 1 = -shift by ring], high⟩
  · next below => exact ⟨low, not_le.1 below⟩

end Ratio

namespace Binary64

/-! ## Near enough -/

variable {r : Ratio} {mantissa : ℕ} {exponent : ℤ}

theorem value_magnitude (mantissa : ℕ) (exponent : ℤ) :
    (magnitude mantissa exponent).value = mantissa * (2 : ℚ) ^ exponent := by
  rw [magnitude, Ratio.value_scale, Ratio.value]
  norm_num

theorem den_magnitude_pos (mantissa : ℕ) (exponent : ℤ) : 0 < (magnitude mantissa exponent).den :=
  Ratio.den_scale_pos Nat.two_pos Nat.one_pos _

/-- The ratio stands for a number as near to the floating point number as 17 digits bring it. -/
def Near (x : ℚ) (mantissa : ℕ) (exponent : ℤ) : Prop :=
  |x - mantissa * (2 : ℚ) ^ exponent| ≤ mantissa * (2 : ℚ) ^ exponent / (2 * 10 ^ 16)

theorem Near.pos {x : ℚ} (h : Near x mantissa exponent) (hm : 0 < mantissa) : 0 < x := by
  have hm' : (0 : ℚ) < mantissa := Nat.cast_pos.2 hm
  have hv : (0 : ℚ) < mantissa * (2 : ℚ) ^ exponent := by positivity
  have := (abs_le.1 h).1
  linarith

theorem round_of_scaled (hd : 0 < r.den) {k : ℕ} {e : ℤ}
    (h : |r.value - k * (2 : ℚ) ^ e| < 1 / 2 * (2 : ℚ) ^ e) : (r.scale 2 (-e)).round = k := by
  have pow : (0 : ℚ) < 2 ^ e := zpow_pos (by norm_num) e
  refine Ratio.round_eq (Ratio.den_scale_pos Nat.two_pos hd _) ?_
  have scaled : (r.scale 2 (-e)).value * 2 ^ e = r.value := r.value_scale_neg Nat.two_pos e
  rw [← scaled, ← sub_mul, abs_mul, abs_of_pos pow] at h
  exact lt_of_mul_lt_mul_right h pow.le

theorem ofRatio_of_near_unit (hm : mantissa < 2 ^ 53) (le_highest : exponent ≤ highest)
    (hd : 0 < r.den) (positive : 0 < r.value) (suits : Exponent r.value exponent)
    (near : |r.value - mantissa * (2 : ℚ) ^ exponent| < 1 / 2 * 2 ^ exponent) (negative : Bool) :
    ofRatio negative r = .finite negative mantissa exponent := by
  rw [ofRatio_eq hd positive suits, round_of_scaled hd near, ofMantissa,
    if_neg (by rw [mantissaBound_eq]; omega), if_neg (by omega)]

/-- Below a power of two the exponent is one lower, and the mantissa is rounded up to 2 ^ 53. -/
theorem ofRatio_of_near_power (le_highest : exponent ≤ highest) (lowest_lt : lowest < exponent)
    (hd : 0 < r.den) (near : Near r.value (2 ^ 52) exponent)
    (below : r.value < 2 ^ 52 * (2 : ℚ) ^ exponent) (negative : Bool) :
    ofRatio negative r = .finite negative (2 ^ 52) exponent := by
  have positive := near.pos (by decide)
  obtain ⟨low, high⟩ := abs_le.1 near
  have half : (2 : ℚ) ^ exponent = 2 * 2 ^ (exponent - 1) := by
    rw [← two_zpow_succ, sub_add_cancel]
  have pow : (0 : ℚ) < 2 ^ (exponent - 1) := zpow_pos (by norm_num) _
  rw [half] at low high below
  push_cast at low high
  have suits : Exponent r.value (exponent - 1) := by
    refine ⟨by omega, by linarith, .inr ?_⟩
    norm_num at low ⊢
    linarith
  have carried : (r.scale 2 (-(exponent - 1))).round = mantissaBound := by
    refine round_of_scaled hd ?_
    rw [mantissaBound_eq, abs_lt]
    push_cast
    norm_num at low high ⊢
    constructor <;> linarith
  rw [ofRatio_eq hd positive suits, carried, ofMantissa, if_pos rfl, if_neg (by omega),
    sub_add_cancel]
  rfl

/-- A ratio that is near enough to a floating point number is rounded to it. -/
theorem ofRatio_of_near (canonical : (finite false mantissa exponent).Canonical)
    (hm : 0 < mantissa) (hd : 0 < r.den) (near : Near r.value mantissa exponent)
    (negative : Bool) : ofRatio negative r = .finite negative mantissa exponent := by
  obtain ⟨small, lowest_le, le_highest, normal⟩ := canonical
  have positive := near.pos hm
  have pow : (0 : ℚ) < 2 ^ exponent := zpow_pos (by norm_num) exponent
  have small' : (mantissa : ℚ) ≤ 2 ^ 53 - 1 := by
    have : ((mantissa + 1 : ℕ) : ℚ) ≤ (2 ^ 53 : ℕ) := Nat.cast_le.2 small
    push_cast at this
    linarith
  obtain ⟨low, high⟩ := abs_le.1 near
  -- The distance is less than half a unit of the last binary digit.
  have distance : (mantissa : ℚ) * 2 ^ exponent / (2 * 10 ^ 16) < 1 / 2 * 2 ^ exponent := by
    rw [div_lt_iff₀ (by norm_num), mul_right_comm]
    refine mul_lt_mul_of_pos_right ?_ pow
    norm_num at small' ⊢
    linarith
  by_cases same : exponent = lowest ∨ 2 ^ 52 * (2 : ℚ) ^ exponent ≤ r.value
  · have suits : Exponent r.value exponent := by
      refine ⟨lowest_le, ?_, same⟩
      have := mul_le_mul_of_nonneg_right small' pow.le
      linarith
    exact ofRatio_of_near_unit small le_highest hd positive suits (near.trans_lt distance) negative
  · obtain ⟨notLowest, below⟩ := not_or.1 same
    rw [not_le] at below
    -- Only the least mantissa is so near to a number of the next exponent down.
    have least : mantissa = 2 ^ 52 := by
      have least_le := normal.resolve_left notLowest
      by_contra other
      have : ((2 ^ 52 + 1 : ℕ) : ℚ) ≤ mantissa := Nat.cast_le.2 (by omega)
      have := mul_le_mul_of_nonneg_right this pow.le
      push_cast at this
      linarith
    subst least
    exact ofRatio_of_near_power le_highest (by omega) hd near below negative

theorem ten_zpow_le : (10 : ℚ) ^ (-330 : ℤ) ≤ 2 ^ (-1075 : ℤ) := by
  have h : (2 : ℕ) ^ 1075 ≤ 10 ^ 330 := by decide +kernel
  have h' : (2 : ℚ) ^ 1075 ≤ 10 ^ 330 := by exact_mod_cast h
  exact inv_anti₀ (by positivity) h'

theorem lt_ten_zpow : (2 : ℚ) ^ (1025 : ℤ) < 10 ^ (310 : ℤ) := by
  have h : (2 : ℕ) ^ 1025 < 10 ^ 310 := by decide +kernel
  have h' : (2 : ℚ) ^ 1025 < 10 ^ 310 := by exact_mod_cast h
  exact h'

/-- A number with this many digits is not so small that its digits are not looked at. -/
theorem Near.not_small {x : ℚ} {k : ℤ} (near : Near x mantissa exponent) (size : Magnitude x k)
    (hm : 0 < mantissa) (lowest_le : lowest ≤ exponent) : -330 < k := by
  obtain ⟨low, -⟩ := abs_le.1 near
  have hm' : (1 : ℚ) ≤ mantissa := Nat.one_le_cast.2 hm
  have pow : (0 : ℚ) < 2 ^ exponent := zpow_pos (by norm_num) exponent
  have least : (2 : ℚ) ^ (-1075 : ℤ) ≤ 2 ^ (exponent - 1) :=
    zpow_le_zpow_right₀ (by norm_num) (by unfold lowest at lowest_le; omega)
  have half : (2 : ℚ) ^ exponent = 2 * 2 ^ (exponent - 1) := by
    rw [← two_zpow_succ, sub_add_cancel]
  have scaled := mul_le_mul_of_nonneg_right hm' pow.le
  have bound := ten_zpow_le
  have : (10 : ℚ) ^ (-330 : ℤ) < 10 ^ k := by
    refine lt_of_le_of_lt ?_ size.lt
    linarith
  exact (zpow_lt_zpow_iff_right₀ (by norm_num : (1 : ℚ) < 10)).1 this

theorem Near.not_large {x : ℚ} {k : ℤ} (near : Near x mantissa exponent) (size : Magnitude x k)
    (hm : mantissa < 2 ^ 53) (le_highest : exponent ≤ highest) : k ≤ 310 := by
  obtain ⟨-, high⟩ := abs_le.1 near
  have small : (mantissa : ℚ) ≤ 2 ^ (53 : ℤ) := by exact_mod_cast hm.le
  have pow : (0 : ℚ) < 2 ^ exponent := zpow_pos (by norm_num) exponent
  have most : (2 : ℚ) ^ (53 : ℤ) * 2 ^ exponent ≤ 2 ^ (1024 : ℤ) := by
    rw [← zpow_add₀ (by norm_num)]
    exact zpow_le_zpow_right₀ (by norm_num) (by unfold highest at le_highest; omega)
  have nonneg : 0 ≤ (mantissa : ℚ) * 2 ^ exponent := mul_nonneg (Nat.cast_nonneg _) pow.le
  have : (10 : ℚ) ^ (k - 1) < 10 ^ (310 : ℤ) :=
    calc (10 : ℚ) ^ (k - 1) ≤ x := size.le
      _ ≤ 2 * (mantissa * 2 ^ exponent) := by linarith
      _ ≤ 2 * (2 ^ (53 : ℤ) * 2 ^ exponent) := by
        have := mul_le_mul_of_nonneg_right small pow.le
        linarith
      _ ≤ 2 * 2 ^ (1024 : ℤ) := mul_le_mul_of_nonneg_left most (by norm_num)
      _ = 2 ^ (1025 : ℤ) := (two_zpow_succ 1024).symm
      _ < 10 ^ (310 : ℤ) := lt_ten_zpow
  have := (zpow_lt_zpow_iff_right₀ (by norm_num : (1 : ℚ) < 10)).1 this
  omega

/-- A decimal number that is near enough to a floating point number reads back as it. -/
theorem ofDecimal_of_near (canonical : (finite false mantissa exponent).Canonical)
    (hm : 0 < mantissa) {c : ℕ} {e : ℤ} (near : Near (c * (10 : ℚ) ^ e) mantissa exponent)
    (negative : Bool) : ofDecimal negative c e = .finite negative mantissa exponent := by
  have positive := near.pos hm
  have hc : c ≠ 0 := by
    rintro rfl
    simp at positive
  have size := (magnitude_natCast hc).scale e
  -- The powers of ten beyond which the answer is known are out of reach.
  have notSmall := near.not_small size hm canonical.2.1
  have notLarge := near.not_large size canonical.1 canonical.2.2.1
  rw [ofDecimal, if_neg (by simp only [hc, false_or]; omega), if_neg (by omega)]
  refine ofRatio_of_near canonical hm (Ratio.den_scale_pos (by decide) Nat.one_pos _) ?_ negative
  rwa [value_decimal]

end Binary64

/-! ## The digits that are written -/

namespace Scientific

open Binary64 (Canonical Magnitude ofDecimal ofDecimal_of_near Near value_magnitude
  den_magnitude_pos)

variable {mantissa : ℕ} {exponent : ℤ}

/-- The digits of the coefficient, with the power of ten, read back as the number. -/
structure ReadsBack (s : Scientific) (mantissa : ℕ) (exponent : ℤ) : Prop where
  written : ∃ c unit, s = ofCoefficient c unit ∧ c ≠ 0 ∧
    ofDecimal false c unit = .finite false mantissa exponent

theorem readsBack_of_ofDecimal (hm : 0 < mantissa) {c : ℕ} {unit : ℤ}
    (h : ofDecimal false c unit = .finite false mantissa exponent) :
    (ofCoefficient c unit).ReadsBack mantissa exponent := by
  refine ⟨c, unit, rfl, ?_, h⟩
  rintro rfl
  rw [ofDecimal, if_pos (.inl rfl), Binary64.zero] at h
  simp only [Binary64.finite.injEq, true_and] at h
  omega

theorem round_eq_floor (r : Ratio) : r.round = r.floor ∨ r.round = r.floor + 1 := by
  unfold Ratio.round roundDiv Ratio.floor
  simp only
  split_ifs <;> simp

/-- What is found on a grid reads back. -/
theorem readsBack_of_onGrid (hm : 0 < mantissa) {count : ℕ} {s : Scientific}
    (h : onGrid? mantissa exponent count = some s) : s.ReadsBack mantissa exponent := by
  unfold onGrid? at h
  simp only at h
  split at h
  · next low high =>
    rw [decide_eq_true_eq] at low high
    rw [← Option.some.inj h]
    apply readsBack_of_ofDecimal hm
    rcases round_eq_floor ((Binary64.magnitude mantissa exponent).scale 10
      (-((Binary64.magnitude mantissa exponent).magnitude - count))) with eq | eq
    · rw [eq]
      exact low
    · rw [eq]
      exact high
  · next low _ =>
    rw [decide_eq_true_eq] at low
    rw [← Option.some.inj h]
    exact readsBack_of_ofDecimal hm low
  · next _ high =>
    rw [decide_eq_true_eq] at high
    rw [← Option.some.inj h]
    exact readsBack_of_ofDecimal hm high
  · exact absurd h (by simp)

/-- The decimal number of 17 digits that is nearest to a number is near enough to it. -/
theorem near_seventeen (hm : 0 < mantissa) :
    Near (((Binary64.magnitude mantissa exponent).scale 10
        (-((Binary64.magnitude mantissa exponent).magnitude - 17))).round *
      (10 : ℚ) ^ ((Binary64.magnitude mantissa exponent).magnitude - 17)) mantissa exponent := by
  have hd := den_magnitude_pos mantissa exponent
  have value := value_magnitude mantissa exponent
  have positive : 0 < (Binary64.magnitude mantissa exponent).value := by
    rw [value]
    positivity
  have size := Ratio.magnitude_spec ((Ratio.num_ne_zero_iff hd).2 positive) hd
  generalize Binary64.magnitude mantissa exponent = r at hd value positive size
  have near := Ratio.round_near (Ratio.den_scale_pos (by decide : 0 < 10) hd (-(r.magnitude - 17)))
  generalize hc : (r.scale 10 (-(r.magnitude - 17))).round = c at near
  have unit : (0 : ℚ) < 10 ^ (r.magnitude - 17) := zpow_pos (by norm_num) _
  have scaled : (r.scale 10 (-(r.magnitude - 17))).value * 10 ^ (r.magnitude - 17) = r.value :=
    r.value_scale_neg (by decide) _
  have distance : |(c : ℚ) * 10 ^ (r.magnitude - 17) - r.value| ≤
      1 / 2 * 10 ^ (r.magnitude - 17) := by
    rw [abs_sub_comm, ← scaled, ← sub_mul, abs_mul, abs_of_pos unit]
    exact mul_le_mul_of_nonneg_right (by exact_mod_cast near) unit.le
  have digits : (10 : ℚ) ^ (r.magnitude - 1) = 10 ^ 16 * 10 ^ (r.magnitude - 17) := by
    rw [show r.magnitude - 1 = 16 + (r.magnitude - 17) by ring, zpow_add₀ (by norm_num)]
    norm_num
  have least := size.le
  rw [digits] at least
  rw [Near, ← value]
  refine distance.trans ?_
  rw [le_div_iff₀ (by norm_num)]
  linarith

/-- The digits that are written for a number read back as it. -/
theorem shortest_spec (canonical : (Binary64.finite false mantissa exponent).Canonical)
    (hm : 0 < mantissa) : (shortest mantissa exponent).ReadsBack mantissa exponent := by
  unfold shortest
  simp only
  cases found : (List.range 17).findSome? fun i => onGrid? mantissa exponent (i + 1) with
  | none =>
    exact readsBack_of_ofDecimal hm (ofDecimal_of_near canonical hm (near_seventeen hm) false)
  | some s =>
    obtain ⟨i, -, eq⟩ := List.exists_of_findSome?_eq_some found
    exact readsBack_of_onGrid hm eq

end Scientific

end LedgerGateway.Decimal
