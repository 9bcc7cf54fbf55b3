import LedgerGateway.Hex.Quantity
import LedgerGateway.Proofs.HexSpelling
import Mathlib.Algebra.Group.Nat.Defs
import Mathlib.Data.List.Induction

/-!
# The texts of numbers and of bytes

A number has one text: the digits that `digits` writes are the only ones in lower case that have its
value and no zero in front that could be left out. Bytes have the text that is written and others
that the reader takes as well, and what is written is read back.

* `Minimal` — lower case digits without a superfluous zero; `minimal_digits`, `Minimal.eq_digits`.
* `isQuantity_iff` — the one text of a number.
* `length_digits_le_iff` — how many digits a number has.
* `read_marked_encode`, `length_marked_encode` — bytes are read back, and take two digits each.
* `Pairs.map_toLower` — digits differ from the ones that are written for their bytes in case alone.
-/

namespace LedgerGateway.Hex

/-! ## Digits -/

/-- The digits that are written. -/
def lowerDigits : List Char := "0123456789abcdef".toList

/-- At least one digit in lower case, with no zero in front but the one of zero itself. -/
structure Minimal (ds : List Char) : Prop where
  nonempty : ds ≠ []
  lower : ∀ c ∈ ds, c ∈ lowerDigits
  zero : ds.head? = some '0' → ds = ['0']

theorem digitChar_mem {n : Nat} (h : n < 16) : Nat.digitChar n ∈ lowerDigits := by
  have all : ∀ m : Fin 16, Nat.digitChar m.val ∈ lowerDigits := by decide
  exact all ⟨n, h⟩

/-- A digit in lower case is the one that is written for its value. -/
theorem exists_digitChar {c : Char} (h : c ∈ lowerDigits) :
    ∃ n < 16, digitValue? c = some n ∧ c = Nat.digitChar n := by
  -- The value of a digit is its place in the list.
  have all : ∀ m : Fin lowerDigits.length, m.val < 16 ∧
      digitValue? (lowerDigits.get m) = some m.val ∧
      lowerDigits.get m = Nat.digitChar m.val := by decide
  obtain ⟨m, rfl⟩ := List.get_of_mem h
  exact ⟨m.val, all m⟩

theorem digits_of_large {n : Nat} (h : 16 ≤ n) :
    digits n = digits (n / 16) ++ [Nat.digitChar (n % 16)] := by
  rw [digits, if_neg (by omega)]

theorem digits_of_small {n : Nat} (h : n < 16) : digits n = [Nat.digitChar n] := by
  rw [digits, if_pos h]

theorem digits_ne_nil (n : Nat) : digits n ≠ [] := by
  rw [digits]
  split <;> simp

theorem head?_digits_of_pos (n : Nat) (h : 0 < n) : (digits n).head? ≠ some '0' := by
  induction n using Nat.strongRecOn with
  | ind n ih =>
    by_cases small : n < 16
    · have all : ∀ m : Fin 16, 0 < m.val → [Nat.digitChar m.val].head? ≠ some '0' := by decide
      rw [digits_of_small small]
      exact all ⟨n, small⟩ h
    · have front := ih (n / 16) (by omega) (by omega)
      rw [digits_of_large (by omega), List.head?_append]
      cases head : (digits (n / 16)).head? with
      | none => exact absurd (List.head?_eq_none_iff.1 head) (digits_ne_nil (n / 16))
      | some c =>
        rw [head] at front
        exact front

theorem mem_digits_lower (n : Nat) : ∀ c ∈ digits n, c ∈ lowerDigits := by
  induction n using Nat.strongRecOn with
  | ind n ih =>
    intro c mem
    by_cases small : n < 16
    · rw [digits_of_small small, List.mem_singleton] at mem
      exact mem ▸ digitChar_mem small
    · rw [digits_of_large (by omega), List.mem_append, List.mem_singleton] at mem
      rcases mem with front | rfl
      · exact ih (n / 16) (by omega) c front
      · exact digitChar_mem (by omega)

/-- The digits of a number fit into a count if the number is below that power of sixteen. -/
theorem length_digits_le_iff {n k : Nat} (some_ : 0 < k) : (digits n).length ≤ k ↔ n < 16 ^ k := by
  induction k generalizing n with
  | zero => exact absurd some_ (by decide)
  | succ k ih =>
    by_cases small : n < 16
    · have room : 16 ≤ 16 ^ (k + 1) := Nat.le_self_pow (by omega) 16
      rw [digits_of_small small, List.length_singleton]
      omega
    · rw [digits_of_large (by omega), List.length_append, List.length_singleton,
        Nat.add_le_add_iff_right]
      rcases Nat.eq_zero_or_pos k with rfl | more
      · have front := List.length_pos_iff.2 (digits_ne_nil (n / 16))
        omega
      · rw [ih more, Nat.div_lt_iff_lt_mul (by decide), Nat.pow_succ]

/-- The digits that are written are lower case, and no zero in front could be left out. -/
theorem minimal_digits (n : Nat) : Minimal (digits n) where
  nonempty := digits_ne_nil n
  lower := mem_digits_lower n
  zero := by
    intro head
    rcases Nat.eq_zero_or_pos n with rfl | positive
    · exact digits_of_small (by decide)
    · exact absurd head (head?_digits_of_pos n positive)

/-- There are no other such digits with that value. -/
theorem Minimal.eq_digits {ds : List Char} (h : Minimal ds) {n : Nat} (value : value? ds = some n) :
    ds = digits n := by
  -- From the end: the last digit is the remainder, and the front has the quotient for its value.
  induction ds using List.reverseRecOn generalizing n with
  | nil => exact absurd rfl h.nonempty
  | append_singleton front c ih =>
    obtain ⟨k, small, digit, rfl⟩ := exists_digitChar (h.lower c (by simp))
    rw [value?_append_singleton] at value
    by_cases alone : front = []
    · subst alone
      have same : k = n := by simpa [value?, pushDigit, digit] using value
      rw [← same, digits_of_small small]
      rfl
    · have long : front ++ [Nat.digitChar k] ≠ ['0'] := by
        intro eq
        have length := congrArg List.length eq
        rw [List.length_append, List.length_singleton, List.length_singleton] at length
        exact alone (List.length_eq_zero_iff.1 (by omega))
      have noZero : front.head? ≠ some '0' := by
        intro zero
        apply long
        apply h.zero
        rw [List.head?_append, zero]
        rfl
      have minimal : Minimal front :=
        ⟨alone, fun c mem => h.lower c (by simp [mem]), fun zero => absurd zero noZero⟩
      cases read : value? front with
      | none => simp [read] at value
      | some m =>
        have sum : m * 16 + k = n := by simpa [read, pushDigit, digit] using value
        have eq := ih minimal read
        have positive : m ≠ 0 := by
          rintro rfl
          rw [eq, digits_of_small (by decide)] at noZero
          exact noZero rfl
        rw [digits_of_large (by omega), show n / 16 = m by omega, show n % 16 = k by omega, eq]

/-! ## Quantities -/

theorem toList_marked (cs : List Char) :
    (marked (String.ofList cs)).toList = '0' :: 'x' :: cs := by
  simp [marked, String.toList_append]

/-- The text is the mark and minimal digits that have the number for their value. -/
def IsQuantity (s : String) (n : Nat) : Prop :=
  ∃ ds, s.toList = '0' :: 'x' :: ds ∧ Minimal ds ∧ value? ds = some n

/-- A number has one text, and it is the one that is written. -/
theorem isQuantity_iff {s : String} {n : Nat} : IsQuantity s n ↔ s = quantity n := by
  constructor
  · rintro ⟨ds, text, minimal, value⟩
    apply String.toList_injective
    rw [text, minimal.eq_digits value, quantity, toList_marked]
  · rintro rfl
    exact ⟨digits n, toList_marked _, minimal_digits n, value?_digits n⟩

/-! ## Data -/

theorem toList_marked_encode (bytes : Bytes) :
    (marked (encode bytes)).toList = '0' :: 'x' :: bytes.flatMap byteDigits :=
  toList_marked _

/-- Bytes are read back from what is written. -/
theorem read_marked_encode (bytes : Bytes) : read (marked (encode bytes)) = .ok bytes := by
  apply (read_eq_ok_iff _ _).2
  have pairs := pairs_of_readPairs _ 0 _ (readPairs_flatMap_byteDigits bytes 0)
  exact ⟨['0', 'x'], by simp [marks], _, toList_marked_encode bytes, pairs⟩

theorem length_flatMap_byteDigits (bytes : Bytes) :
    (bytes.flatMap byteDigits).length = 2 * bytes.length := by
  induction bytes with
  | nil => rfl
  | cons b rest ih =>
    rw [List.flatMap_cons, List.length_append, ih, List.length_cons]
    simp only [byteDigits, List.length_cons, List.length_nil]
    omega

theorem length_marked_encode (bytes : Bytes) :
    (marked (encode bytes)).length = 2 + 2 * bytes.length := by
  rw [← String.length_toList, toList_marked_encode, List.length_cons, List.length_cons,
    length_flatMap_byteDigits]
  omega

theorem isDigit_of_lower {c : Char} (h : c ∈ lowerDigits) : isDigit c = true := by
  obtain ⟨n, -, digit, -⟩ := exists_digitChar h
  rw [isDigit, digit]
  rfl

theorem isDigit_of_mem_flatMap {bytes : Bytes} {c : Char} (h : c ∈ bytes.flatMap byteDigits) :
    isDigit c = true := by
  obtain ⟨b, -, mem⟩ := List.mem_flatMap.1 h
  have high : b.toNat / 16 < 16 := by have := b.toNat_lt; omega
  simp only [byteDigits, List.mem_cons, List.not_mem_nil, or_false] at mem
  rcases mem with rfl | rfl
  · exact isDigit_of_lower (digitChar_mem high)
  · exact isDigit_of_lower (digitChar_mem (Nat.mod_lt _ (by decide)))

/-- Different bytes are written differently. -/
theorem flatMap_byteDigits_inj {bytes bytes' : Bytes}
    (h : bytes.flatMap byteDigits = bytes'.flatMap byteDigits) : bytes = bytes' := by
  have read := readPairs_flatMap_byteDigits bytes 0
  rw [h, readPairs_flatMap_byteDigits bytes' 0] at read
  exact (Except.ok.inj read).symm

/-! ## Letter case -/

/-- In lower case a digit is the one that is written for its value. -/
theorem toLower_of_digitValue? {c : Char} {n : Nat} (h : digitValue? c = some n) :
    c.toLower = Nat.digitChar n := by
  have all : ∀ k : Fin 103, (digitValue? (Char.ofNat k.val)).all
      (fun v => (Char.ofNat k.val).toLower == Nat.digitChar v) = true := by decide
  have small : c.toNat < 103 := by
    rw [digitValue?_eq_some_iff] at h
    omega
  have own := all ⟨c.toNat, small⟩
  rw [Char.ofNat_toNat, h] at own
  exact eq_of_beq own

/-- In lower case the digits of bytes are the ones that are written for them. -/
theorem Pairs.map_toLower {s : List Char} {bytes : Bytes} (h : Pairs s bytes)
    (digits : ∀ c ∈ s, isDigit c = true) : s.map Char.toLower = bytes.flatMap byteDigits := by
  induction h with
  | done => rfl
  | @blank c _ _ blank _ _ =>
    rw [isAsciiBlank_of_isDigit (digits c (by simp))] at blank
    cases blank
  | @pair c d high low s bytes hhigh hlow _ ih =>
    have low_lt := digitValue?_lt hlow
    have front : (high * 16 + low) / 16 = high := by omega
    have back : (high * 16 + low) % 16 = low := by omega
    simp only [List.map_cons, toLower_of_digitValue? hhigh, toLower_of_digitValue? hlow,
      ih fun c' mem => digits c' (by simp [mem]), List.flatMap_cons, byteDigits,
      toNat_pair hhigh hlow, front, back, List.cons_append, List.nil_append]

end LedgerGateway.Hex
