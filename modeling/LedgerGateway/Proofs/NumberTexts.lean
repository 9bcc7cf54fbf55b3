import LedgerGateway.Json.Writer
import LedgerGateway.Proofs.JsonNumbers
import LedgerGateway.Proofs.ShortestDigits

/-!
# Written numbers are read back

The text of a number is a numeral of the strict grammar, and the numeral spells that number: an
integer has neither fraction nor exponent, a floating point number always has one of them, in
positional and in scientific notation alike.

* `exists_int` — integers.
* `Scientific.written_text` — digits with a power of ten, in the notation that their size asks for.
* `exists_float` — finite floating point numbers in lowest form.
-/

namespace LedgerGateway.Json.Numeral

open Decimal (Binary64 Scientific)

/-! ## Digits -/

theorem ofDigits_eq (ds : List Char) : ofDigits ds = Nat.ofDigitChars 10 ds 0 := by
  rw [Nat.ofDigitChars_eq_foldl, ofDigits]
  simp only [Nat.mul_comm 10]
  rfl

theorem ofDigits_append (l m : List Char) :
    ofDigits (l ++ m) = ofDigits l * 10 ^ m.length + ofDigits m := by
  rw [ofDigits_eq, Nat.ofDigitChars_append, Nat.ofDigitChars_eq_ofDigitChars_zero, ← ofDigits_eq,
    ← ofDigits_eq, Nat.mul_comm]

theorem ofDigits_zeros (k : ℕ) : ofDigits (List.replicate k '0') = 0 := by
  rw [ofDigits_eq, Nat.ofDigitChars_replicate_zero, Nat.mul_zero]

theorem ofDigits_digits (n : ℕ) : ofDigits (Decimal.digits n) = n := by
  rw [ofDigits_eq, Decimal.digits, Nat.ofDigitChars_ten_toDigits]

theorem digits_digits (n : ℕ) : Digits (Decimal.digits n) :=
  fun _ mem => Nat.isDigit_of_mem_toDigits (by decide) (by decide) mem

theorem digits_zeros (k : ℕ) : Digits (List.replicate k '0') := by
  intro c mem
  rw [List.eq_of_mem_replicate mem]
  decide

theorem Digits.append {l m : List Char} (h : Digits l) (h' : Digits m) : Digits (l ++ m) :=
  fun c mem => (List.mem_append.1 mem).elim (h c) (h' c)

theorem exists_digits (n : ℕ) : ∃ d ds, Decimal.digits n = d :: ds :=
  List.exists_cons_of_ne_nil Nat.toDigits_ne_nil

/-- The digits of a number above zero do not begin with zero. -/
theorem head?_digits {n : ℕ} (hn : n ≠ 0) : (Decimal.digits n).head? ≠ some '0' := by
  induction n using Nat.strongRecOn with
  | ind n ih =>
    by_cases small : n < 10
    · rw [Decimal.digits, Nat.toDigits_of_lt_base small]
      have : ∀ k < 10, k ≠ 0 → [k.digitChar].head? ≠ some '0' := by decide
      exact this n small hn
    · have split : Decimal.digits n = Decimal.digits (n / 10) ++ [(n % 10).digitChar] :=
        Nat.toDigits_of_base_le (by decide) (Nat.not_lt.1 small)
      have front := ih (n / 10) (by omega) (by omega)
      obtain ⟨d, ds, eq⟩ := exists_digits (n / 10)
      rw [split, eq]
      rw [eq] at front
      exact front

/-! ## Integers -/

/-- The sign in front of a number. -/
def signChars (negative : Bool) : List Char := if negative then ['-'] else []

theorem spells_int (negative : Bool) (n : ℕ) :
    ∃ m : Numeral, m.Spells (signChars negative ++ Decimal.digits n) ∧ m.isInteger = true ∧
      m.count = (Decimal.digits n).length ∧ m.number = .int (Binary64.signed negative n) := by
  obtain ⟨d, ds, eq⟩ := exists_digits n
  have all := digits_digits n
  have value := ofDigits_digits n
  rw [eq] at all value
  refine ⟨⟨negative, d, ds, [], none⟩,
    ⟨⟨all d (by simp), fun c mem => all c (by simp [mem]), ?_, fun c mem => absurd mem (by simp),
      fun _ _ h => absurd h (by simp)⟩, 'e', .inl rfl, ?_⟩, rfl, by rw [eq]; rfl, ?_⟩
  · show d = '0' → ds = []
    rintro rfl
    by_cases hn : n = 0
    · subst hn
      rw [Decimal.digits, Nat.toDigits_zero] at eq
      exact (List.cons.inj eq).2.symm
    · exact absurd (by rw [eq]; rfl) (head?_digits hn)
  · simp [chars, fractionChars, exponentChars, signChars, eq]
  · show Json.int (Binary64.signed negative (ofDigits (d :: ds))) = _
    rw [value]

/-- The text of an integer is a numeral that spells it, with as many digits as the integer has. -/
theorem exists_int (n : ℤ) :
    ∃ m : Numeral, m.Spells (Decimal.intText n).toList ∧ m.isInteger = true ∧
      m.count = (Decimal.digits n.natAbs).length ∧ m.number = .int n := by
  cases n with
  | ofNat n =>
    have text : (Decimal.intText (Int.ofNat n)).toList = signChars false ++ Decimal.digits n := by
      show (Nat.repr n).toList = _
      rw [Nat.toList_repr]
      rfl
    rw [text]
    exact spells_int false n
  | negSucc n =>
    have text : (Decimal.intText (Int.negSucc n)).toList =
        signChars true ++ Decimal.digits (n + 1) := by
      show ("-" ++ Nat.repr (n + 1)).toList = _
      rw [String.toList_append, Nat.toList_repr]
      rfl
    rw [text]
    exact spells_int true (n + 1)

/-! ## Numbers with a fraction or an exponent -/

/-- The number that a numeral stands for, without its sign. -/
def magnitude (n : Numeral) : ℚ :=
  ofDigits (n.first :: n.more ++ n.fraction) *
    (10 : ℚ) ^ (exponentValue n.exponent - n.fraction.length)

theorem number_of_magnitude {n : Numeral} (notInteger : n.isInteger = false) {c : ℕ} {e : ℤ}
    (h : n.magnitude = c * (10 : ℚ) ^ e) :
    n.number = .float (Binary64.ofDecimal n.negative c e) := by
  rw [number, notInteger, if_neg Bool.false_ne_true, Binary64.ofDecimal_congr h]

end LedgerGateway.Json.Numeral

namespace LedgerGateway.Decimal.Scientific

open Json (Numeral)
open Json.Numeral (Digits ofDigits_append ofDigits_zeros ofDigits_digits digits_digits
  digits_zeros head?_digits fractionChars exponentChars exponentValue signChars)

/-- There are digits, and the first is not zero. -/
structure Leading (s : Scientific) : Prop where
  digits : Digits s.digits
  first : ∃ d ds, s.digits = d :: ds ∧ d ≠ '0'

/-- The number that the digits and the power of ten stand for. -/
def value (s : Scientific) : ℚ :=
  Numeral.ofDigits s.digits * (10 : ℚ) ^ (s.point - s.digits.length)

/-- Dropping zeros at the end changes no number. -/
theorem ofCoefficient_spec {c : ℕ} (hc : c ≠ 0) (unit : ℤ) :
    (ofCoefficient c unit).Leading ∧ (ofCoefficient c unit).value = c * (10 : ℚ) ^ unit := by
  -- The coefficient is these digits with some zeros behind them.
  obtain ⟨ds, hds⟩ : ∃ ds, ds = (ofCoefficient c unit).digits := ⟨_, rfl⟩
  obtain ⟨k, split⟩ : ∃ k, Decimal.digits c = ds ++ List.replicate k '0' := by
    refine ⟨((Decimal.digits c).reverse.takeWhile (· = '0')).length, ?_⟩
    have zeros : (Decimal.digits c).reverse.takeWhile (· = '0') =
        List.replicate ((Decimal.digits c).reverse.takeWhile (· = '0')).length '0' :=
      List.eq_replicate_of_mem fun d mem => by simpa using List.mem_takeWhile_imp mem
    rw [hds, ← List.reverse_replicate, ← zeros, ofCoefficient, ← List.reverse_append,
      List.takeWhile_append_dropWhile, List.reverse_reverse]
  have all := digits_digits c
  have number := ofDigits_digits c
  have head := head?_digits hc
  have count : (digitCount c : ℤ) = ds.length + k := by
    show ((Decimal.digits c).length : ℤ) = _
    rw [split]
    simp
  rw [split, ofDigits_append, ofDigits_zeros, List.length_replicate, Nat.add_zero] at number
  rw [split] at all head
  refine ⟨⟨?_, ?_⟩, ?_⟩
  · rw [← hds]
    exact fun d mem => all d (by simp [mem])
  · rw [← hds]
    cases ds with
    | nil =>
      rw [Numeral.ofDigits, List.foldl_nil, Nat.zero_mul] at number
      exact absurd number.symm hc
    | cons d ds => exact ⟨d, ds, rfl, fun eq => head (by rw [eq]; rfl)⟩
  · have point : (ofCoefficient c unit).point - ds.length = k + unit := by
      show (digitCount c : ℤ) + unit - _ = _
      omega
    rw [value, ← hds, point, zpow_add₀ (by norm_num), zpow_natCast, ← mul_assoc, ← number]
    push_cast
    rfl

/-! ## The two notations -/

/-- A text is a numeral that is no integer, with this sign, and stands for the number. -/
def Written (s : Scientific) (text : List Char) : Prop :=
  ∀ negative, ∃ n : Numeral, n.Spells (signChars negative ++ text) ∧ n.isInteger = false ∧
    n.negative = negative ∧ n.magnitude = s.value

theorem exponentText_spec (e : ℤ) :
    ∃ sign ds, exponentText e = 'e' :: (sign ++ ds) ∧ (sign = ['+'] ∨ sign = ['-']) ∧ ds ≠ [] ∧
      Digits ds ∧ exponentValue (some (sign, ds)) = e := by
  obtain ⟨ds, hds⟩ : ∃ ds, ds = (if (Decimal.digits e.natAbs).length < 2
    then '0' :: Decimal.digits e.natAbs else Decimal.digits e.natAbs) := ⟨_, rfl⟩
  have some_ : ds ≠ [] := by
    rw [hds]
    split
    · simp
    · exact Nat.toDigits_ne_nil
  have all : Digits ds := by
    rw [hds]
    split
    · exact (digits_zeros 1).append (digits_digits _)
    · exact digits_digits _
  have number : Numeral.ofDigits ds = e.natAbs := by
    rw [hds]
    split
    · rw [← List.singleton_append, ofDigits_append, ofDigits_digits]
      simp [Numeral.ofDigits]
    · exact ofDigits_digits _
  refine ⟨[if e < 0 then '-' else '+'], ds, ?_, ?_, some_, all, ?_⟩
  · rw [exponentText, hds]
    rfl
  · split <;> simp
  · by_cases below : e < 0
    · rw [if_pos below, exponentValue, if_pos rfl, number]
      omega
    · rw [if_neg below, exponentValue, if_neg (by decide), number]
      omega

theorem written_scientific {s : Scientific} (h : s.Leading) : s.Written s.scientific := by
  intro negative
  obtain ⟨d, ds, eq, nonzero⟩ := h.first
  obtain ⟨sign, es, text, signs, some_, digits, exponent⟩ := exponentText_spec (s.point - 1)
  have all := h.digits
  rw [eq] at all
  refine ⟨⟨negative, d, [], ds, some (sign, es)⟩,
    ⟨⟨all d (by simp), fun c mem => absurd mem (by simp), fun zero => rfl,
      fun c mem => all c (by simp [mem]), ?_⟩, 'e', .inl rfl, ?_⟩, ?_, rfl, ?_⟩
  · rintro sign' es' he
    obtain ⟨rfl, rfl⟩ := Prod.mk.inj (Option.some.inj he)
    exact ⟨.inr signs, some_, digits⟩
  · rw [scientific, eq]
    cases ds with
    | nil => simp [Numeral.chars, fractionChars, exponentChars, signChars, text]
    | cons d' ds => simp [Numeral.chars, fractionChars, exponentChars, signChars, text]
  · simp [Numeral.isInteger]
  · rw [Numeral.magnitude, exponent, value, eq]
    show (Numeral.ofDigits (d :: ds) : ℚ) * _ = _
    rw [List.length_cons]
    congr 2
    push_cast
    ring

/-- Digits around a point. -/
theorem written_point {s : Scientific} {d : Char} {more fraction : List Char}
    (whole : Digits (d :: more)) (lead : d = '0' → more = []) (behind : Digits fraction)
    (some_ : fraction ≠ [])
    (number : (Numeral.ofDigits (d :: more ++ fraction) : ℚ) * 10 ^ (-fraction.length : ℤ) =
      s.value) :
    s.Written (d :: (more ++ '.' :: fraction)) := by
  intro negative
  refine ⟨⟨negative, d, more, fraction, none⟩,
    ⟨⟨whole d (by simp), fun c mem => whole c (by simp [mem]), lead, behind,
      fun _ _ he => absurd he (by simp)⟩, 'e', .inl rfl, ?_⟩, ?_, rfl, ?_⟩
  · simp [Numeral.chars, fractionChars, exponentChars, signChars, some_]
  · simp [Numeral.isInteger, some_]
  · rw [Numeral.magnitude, exponentValue, ← number, zero_sub]

theorem ofDigits_zeros_append (k : ℕ) (ds : List Char) :
    Numeral.ofDigits (List.replicate k '0' ++ ds) = Numeral.ofDigits ds := by
  rw [ofDigits_append, ofDigits_zeros, Nat.zero_mul, Nat.zero_add]

theorem ofDigits_append_zeros (k : ℕ) (ds : List Char) :
    Numeral.ofDigits (ds ++ List.replicate k '0') = Numeral.ofDigits ds * 10 ^ k := by
  rw [ofDigits_append, ofDigits_zeros, List.length_replicate, Nat.add_zero]

theorem written_positional {s : Scientific} (h : s.Leading) : s.Written s.positional := by
  obtain ⟨d, ds, eq, nonzero⟩ := h.first
  have all := h.digits
  have some_ : s.digits ≠ [] := by simp [eq]
  have zero : Digits ['0'] := digits_zeros 1
  have one : ['0'] = List.replicate 1 '0' := rfl
  unfold positional
  split
  · next k point =>
    -- The number is below a tenth.
    show s.Written ('0' :: ([] ++ '.' :: (List.replicate (k + 1) '0' ++ s.digits)))
    refine written_point zero (fun _ => rfl) ((digits_zeros (k + 1)).append all) (by simp) ?_
    rw [one, ofDigits_zeros_append, ofDigits_zeros_append, value, point, List.length_append,
      List.length_replicate, Int.negSucc_eq]
    congr 2
    push_cast
    ring
  · next point =>
    show s.Written ('0' :: ([] ++ '.' :: s.digits))
    refine written_point zero (fun _ => rfl) all some_ ?_
    rw [one, ofDigits_zeros_append, value, point]
    congr 2
    simp
  · next k notZero point =>
    -- The number is one or above: its point stands among the digits or behind them.
    obtain ⟨j, rfl⟩ : ∃ j, k = j + 1 := Nat.exists_eq_succ_of_ne_zero notZero
    show s.Written (s.digits.take (j + 1) ++ List.replicate (j + 1 - s.digits.length) '0' ++ '.' ::
      (if (s.digits.drop (j + 1)).isEmpty then ['0'] else s.digits.drop (j + 1)))
    by_cases short : s.digits.length ≤ j + 1
    · -- All digits stand in front of the point, with zeros up to it.
      rw [List.take_of_length_le short, List.drop_of_length_le short, List.isEmpty_nil, if_pos rfl,
        eq, List.cons_append, List.cons_append, List.append_assoc]
      have front : Digits (d :: (ds ++ List.replicate (j + 1 - (d :: ds).length) '0')) := by
        rw [← List.cons_append, ← eq]
        exact all.append (digits_zeros _)
      rw [← List.append_assoc]
      refine written_point front (fun zero => absurd zero nonzero) zero (by simp) ?_
      rw [← List.cons_append, ← eq, one, ofDigits_append_zeros, ofDigits_append_zeros, value, point]
      have tenth : (10 : ℚ) ^ 1 * 10 ^ (-(List.replicate 1 '0').length : ℤ) = 1 := by norm_num
      rw [Nat.cast_mul, Nat.cast_mul, Nat.cast_pow, Nat.cast_pow, Nat.cast_ofNat, mul_assoc, tenth,
        mul_one, ← zpow_natCast]
      congr 2
      rw [Int.ofNat_eq_natCast]
      omega
    · have none_ : List.replicate (j + 1 - s.digits.length) '0' = [] := by
        rw [show j + 1 - s.digits.length = 0 by omega]
        rfl
      have rest : s.digits.drop (j + 1) ≠ [] := by
        rw [Ne, List.drop_eq_nil_iff]
        exact short
      have front : s.digits.take (j + 1) = d :: ds.take j := by rw [eq, List.take_succ_cons]
      rw [none_, List.append_nil, if_neg (by simpa using rest), front, List.cons_append]
      refine written_point ?_ (fun zero => absurd zero nonzero)
        (fun c mem => all c (List.mem_of_mem_drop mem)) rest ?_
      · rw [← front]
        exact fun c mem => all c (List.mem_of_mem_take mem)
      · rw [← front, List.take_append_drop, value, point, List.length_drop]
        congr 2
        rw [Int.ofNat_eq_natCast]
        omega

/-- Digits with a power of ten are written as a numeral that stands for their number. -/
theorem written_text {s : Scientific} (h : s.Leading) : s.Written s.text := by
  unfold text
  split
  · exact written_positional h
  · exact written_scientific h

end LedgerGateway.Decimal.Scientific

namespace LedgerGateway.Json.Numeral

open Decimal (Binary64 Scientific)

/-- The text of a finite floating point number is a numeral that spells it. -/
theorem exists_float {negative : Bool} {mantissa : ℕ} {exponent : ℤ}
    (canonical : (Binary64.finite negative mantissa exponent).Canonical) :
    ∃ n : Numeral, n.Spells (Binary64.finite negative mantissa exponent).toChars ∧
      n.isInteger = false ∧ n.number = .float (.finite negative mantissa exponent) := by
  have text : (Binary64.finite negative mantissa exponent).toChars = signChars negative ++
      (if mantissa = 0 then ['0', '.', '0']
        else (Scientific.shortest mantissa exponent).text) := rfl
  rw [text]
  by_cases hm : mantissa = 0
  · subst hm
    obtain rfl : exponent = Binary64.lowest := by
      refine canonical.2.2.2.resolve_right ?_
      norm_num
    refine ⟨⟨negative, '0', [], ['0'], none⟩, ⟨⟨rfl, fun c mem => absurd mem (by simp),
      fun _ => rfl, digits_zeros 1, fun _ _ he => absurd he (by simp)⟩, 'e', .inl rfl, ?_⟩, rfl, ?_⟩
    · simp [chars, fractionChars, exponentChars, signChars]
    · rfl
  · -- The digits are those of a coefficient that reads back, and the notation keeps their number.
    rw [if_neg hm]
    obtain ⟨c, unit, written, hc, reads⟩ :=
      (Scientific.shortest_spec canonical (Nat.pos_of_ne_zero hm)).written
    obtain ⟨leading, value⟩ := Scientific.ofCoefficient_spec hc unit
    rw [written]
    obtain ⟨n, spells, notInteger, sign, stands⟩ := Scientific.written_text leading negative
    refine ⟨n, spells, notInteger, ?_⟩
    rw [number_of_magnitude notInteger (stands.trans value), sign,
      Binary64.ofDecimal_sign reads]

end LedgerGateway.Json.Numeral
