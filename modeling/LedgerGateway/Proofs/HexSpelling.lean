import LedgerGateway.Ledger.Basic

/-!
# How texts spell bytes

The reader of hexadecimal data is tied to a grammar that does not mention it.

* `Spells` — an optional `0x` or `0X`, then two digits of either case for each byte, with blanks in
  front of, between and behind the pairs;
* `read_eq_ok_iff` — the reader accepts a text exactly if it spells something, and gives just that;
* `Spells.unique` — a text spells one byte string at most;
* `exists_pairs`, `Pairs.value?_eq` — an even number of digits alone spells bytes, which are the
  number of these digits;
* `address_read_eq_ok_iff`, `readPosition_eq_ok_iff` — addresses and slot numbers are the texts that
  spell 20 bytes, and any bytes at all.
-/

namespace LedgerGateway.Hex

/-- Two digits of either case for each byte, with blanks around the pairs but not inside. -/
inductive Pairs : List Char → Bytes → Prop
  | done : Pairs [] []
  | blank {c s bytes} : Text.isAsciiBlank c = true → Pairs s bytes → Pairs (c :: s) bytes
  | pair {c d high low s bytes} : digitValue? c = some high → digitValue? d = some low →
      Pairs s bytes → Pairs (c :: d :: s) (UInt8.ofNat (high * 16 + low) :: bytes)

/-- The marks that may stand in front of data. -/
def marks : List (List Char) := [[], ['0', 'x'], ['0', 'X']]

/-- The text spells the bytes, behind a mark or without one. -/
def Spells (text : String) (bytes : Bytes) : Prop :=
  ∃ mark ∈ marks, ∃ s, text.toList = mark ++ s ∧ Pairs s bytes

/-! ## Digits and blanks -/

theorem digitValue?_eq_some_iff (c : Char) (n : Nat) :
    digitValue? c = some n ↔
      (48 ≤ c.toNat ∧ c.toNat ≤ 57 ∧ n = c.toNat - 48) ∨
      (97 ≤ c.toNat ∧ c.toNat ≤ 102 ∧ n = c.toNat - 87) ∨
      (65 ≤ c.toNat ∧ c.toNat ≤ 70 ∧ n = c.toNat - 55) := by
  simp only [digitValue?]
  split
  · rw [Option.some.injEq]; omega
  · split
    · rw [Option.some.injEq]; omega
    · split
      · rw [Option.some.injEq]; omega
      · constructor
        · intro h; cases h
        · omega

theorem isAsciiBlank_iff (c : Char) :
    Text.isAsciiBlank c = true ↔ c.toNat = 32 ∨ (9 ≤ c.toNat ∧ c.toNat ≤ 13) := by
  have space : (c == ' ') = true ↔ c.toNat = 32 := by
    rw [beq_iff_eq]
    exact Char.toNat_inj.symm
  simp only [Text.isAsciiBlank, Bool.or_eq_true, space, Bool.and_eq_true, decide_eq_true_eq]

/-- No digit is a blank. -/
theorem isAsciiBlank_of_digitValue? {c : Char} {n : Nat} (h : digitValue? c = some n) :
    Text.isAsciiBlank c = false := by
  rw [← Bool.not_eq_true, isAsciiBlank_iff]
  rw [digitValue?_eq_some_iff] at h
  omega

/-! ## The pairs -/

/-- What spells bytes is ASCII. -/
theorem Pairs.ascii {s : List Char} {bytes : Bytes} (h : Pairs s bytes) :
    ∀ c ∈ s, c.toNat < 128 := by
  induction h with
  | done => simp
  | blank blank _ ih =>
      rw [isAsciiBlank_iff] at blank
      intro c hc
      rcases List.mem_cons.mp hc with rfl | hc
      · omega
      · exact ih c hc
  | pair high low _ ih =>
      rw [digitValue?_eq_some_iff] at high low
      intro c hc
      rcases List.mem_cons.mp hc with rfl | hc
      · omega
      · rcases List.mem_cons.mp hc with rfl | hc
        · omega
        · exact ih c hc

/-- What the reader of pairs returns is spelt by the text. -/
theorem pairs_of_readPairs (s : List Char) (n : Nat) :
    ∀ bytes, readPairs s n = .ok bytes → Pairs s bytes := by
  fun_induction readPairs s n with
  | case1 n =>
      intro bytes h
      cases h
      exact .done
  | case2 n c blank =>
      intro bytes h
      cases h
      exact .blank blank .done
  | case3 n c notBlank => intro bytes h; cases h
  | case4 n c d rest blank ih =>
      intro bytes h
      exact .blank blank (ih bytes h)
  | case5 n c d rest notBlank low => intro bytes h; cases h
  | case6 n c d rest notBlank high => intro bytes h; cases h
  | case7 c d rest n notBlank high low hlow hhigh ih =>
      intro bytes h
      cases hrest : readPairs rest (n + 2) with
      | error fault => rw [hrest] at h; cases h
      | ok more =>
          rw [hrest] at h
          cases h
          exact .pair hhigh hlow (ih more hrest)

/-- The reader of pairs returns what the text spells. -/
theorem readPairs_of_pairs {s : List Char} {bytes : Bytes} (h : Pairs s bytes) :
    ∀ n, readPairs s n = .ok bytes := by
  induction h with
  | done => intro n; rfl
  | @blank c s bytes blank hs ih =>
      intro n
      cases s with
      | nil =>
          cases hs
          rw [readPairs, if_pos blank]
      | cons d rest =>
          rw [readPairs, if_pos blank]
          exact ih (n + 1)
  | pair high low _ ih =>
      intro n
      rw [readPairs, isAsciiBlank_of_digitValue? high, high, low, ih (n + 2)]
      rfl

/-! ## Marks -/

/-- A text that begins with a mark spells nothing if the mark is taken for digits. -/
theorem not_pairs_of_mark {x : Char} (hx : x = 'x' ∨ x = 'X') (s : List Char) (bytes : Bytes) :
    ¬ Pairs ('0' :: x :: s) bytes := by
  intro h
  cases h with
  | blank blank _ => exact absurd blank (by decide)
  | pair _ low _ =>
      have none : digitValue? x = none := by rcases hx with rfl | rfl <;> rfl
      rw [none] at low
      cases low

/-- Behind the mark that the reader takes off, a text spells what it spells behind any mark. -/
theorem pairs_unmarked_iff (s : List Char) (bytes : Bytes) :
    Pairs (unmarked s) bytes ↔ ∃ mark ∈ marks, ∃ t, s = mark ++ t ∧ Pairs t bytes := by
  constructor
  · intro h
    unfold unmarked at h
    split at h
    · exact ⟨['0', 'x'], by decide, _, rfl, h⟩
    · exact ⟨['0', 'X'], by decide, _, rfl, h⟩
    · exact ⟨[], by decide, s, rfl, h⟩
  · rintro ⟨mark, hmark, t, rfl, h⟩
    simp only [marks, List.mem_cons, List.not_mem_nil, or_false] at hmark
    rcases hmark with rfl | rfl | rfl
    · rw [List.nil_append]
      unfold unmarked
      -- A text that spells bytes without a mark has none in front that would be taken off.
      split
      · exact absurd h (not_pairs_of_mark (.inl rfl) _ _)
      · exact absurd h (not_pairs_of_mark (.inr rfl) _ _)
      · exact h
    · exact h
    · exact h

/-! ## Texts -/

/-- A text is read exactly if it spells bytes, and these are the ones that are read. -/
theorem read_eq_ok_iff (text : String) (bytes : Bytes) :
    read text = .ok bytes ↔ Spells text bytes := by
  rw [Spells, ← pairs_unmarked_iff, read, readBare]
  constructor
  · intro h
    split at h
    · cases h
    · exact pairs_of_readPairs _ 0 bytes h
  · intro h
    have ascii : (unmarked text.toList).findIdx? (fun c => 128 ≤ c.toNat) = none := by
      rw [List.findIdx?_eq_none_iff]
      intro c hc
      have := h.ascii c hc
      rw [decide_eq_false_iff_not]
      omega
    rw [ascii]
    exact readPairs_of_pairs h 0

/-- A text spells one byte string at most. -/
theorem Spells.unique {text : String} {bytes bytes' : Bytes} (h : Spells text bytes)
    (h' : Spells text bytes') : bytes = bytes' := by
  rw [← read_eq_ok_iff] at h h'
  exact Except.ok.inj (h.symm.trans h')

/-- A text is read as a fault exactly if it spells nothing. -/
theorem read_eq_error_iff (text : String) :
    (∃ fault, read text = .error fault) ↔ ∀ bytes, ¬ Spells text bytes := by
  constructor
  · rintro ⟨fault, h⟩ bytes spells
    rw [(read_eq_ok_iff text bytes).mpr spells] at h
    cases h
  · intro h
    cases hread : read text with
    | error fault => exact ⟨fault, rfl⟩
    | ok bytes => exact absurd ((read_eq_ok_iff text bytes).mp hread) (h bytes)

/-! ## Digits alone -/

/-- An even number of digits, and not none. -/
structure EvenDigits (s : List Char) : Prop where
  nonempty : s ≠ []
  even : s.length % 2 = 0
  digits : ∀ c ∈ s, isDigit c = true

theorem exists_digitValue? {c : Char} (h : isDigit c = true) : ∃ n, digitValue? c = some n :=
  Option.isSome_iff_exists.1 h

theorem digitValue?_lt {c : Char} {n : Nat} (h : digitValue? c = some n) : n < 16 := by
  rw [digitValue?_eq_some_iff] at h
  omega

theorem isAsciiBlank_of_isDigit {c : Char} (h : isDigit c = true) :
    Text.isAsciiBlank c = false := by
  obtain ⟨n, value⟩ := exists_digitValue? h
  exact isAsciiBlank_of_digitValue? value

/-- The value of a pair of digits fits into a byte. -/
theorem toNat_pair {c d : Char} {high low : Nat} (hhigh : digitValue? c = some high)
    (hlow : digitValue? d = some low) :
    (UInt8.ofNat (high * 16 + low)).toNat = high * 16 + low := by
  have high_lt := digitValue?_lt hhigh
  have low_lt := digitValue?_lt hlow
  exact UInt8.toNat_ofNat_of_lt' (by show _ < 256; omega)

/-- An even number of digits spells half as many bytes. -/
theorem exists_pairs : ∀ s : List Char, s.length % 2 = 0 → (∀ c ∈ s, isDigit c = true) →
    ∃ bytes, Pairs s bytes ∧ s.length = 2 * bytes.length
  | [], _, _ => ⟨[], .done, rfl⟩
  | [_], even, _ => absurd even (by simp)
  | c :: d :: s, even, digits => by
    obtain ⟨high, hhigh⟩ := exists_digitValue? (digits c (by simp))
    obtain ⟨low, hlow⟩ := exists_digitValue? (digits d (by simp))
    have even' : s.length % 2 = 0 := by
      simp only [List.length_cons] at even
      omega
    obtain ⟨bytes, pairs, length⟩ := exists_pairs s even' fun c' mem => digits c' (by simp [mem])
    refine ⟨_, .pair hhigh hlow pairs, ?_⟩
    simp only [List.length_cons]
    omega

/-- What spells bytes without a mark is an even number of digits, unless there is a blank. -/
theorem Pairs.digits_or_blank {s : List Char} {bytes : Bytes} (h : Pairs s bytes) :
    (s.length % 2 = 0 ∧ ∀ c ∈ s, isDigit c = true) ∨ ∃ c ∈ s, Text.isAsciiBlank c = true := by
  induction h with
  | done => exact .inl ⟨rfl, by simp⟩
  | @blank c _ _ blank _ _ => exact .inr ⟨c, by simp, blank⟩
  | @pair c d high low s _ hhigh hlow _ ih =>
    obtain ⟨even, digits⟩ | ⟨b, mem, blank⟩ := ih
    · refine .inl ⟨by simp only [List.length_cons]; omega, fun b mem => ?_⟩
      rcases List.mem_cons.1 mem with rfl | mem
      · rw [isDigit, hhigh]
        rfl
      · rcases List.mem_cons.1 mem with rfl | mem
        · rw [isDigit, hlow]
          rfl
        · exact digits b mem
    · exact .inr ⟨b, by simp [mem], blank⟩

/-- Without blanks the bytes of a text are the number that its digits spell. -/
theorem Pairs.value?_eq {s : List Char} {bytes : Bytes} (h : Pairs s bytes)
    (digits : ∀ c ∈ s, isDigit c = true) : value? s = some (bigEndian bytes) := by
  -- Both sides read on from the number in front, so the induction is for every such number.
  have general : ∀ n, s.foldlM pushDigit n =
      some (bytes.foldl (fun n b => n * 256 + b.toNat) n) := by
    induction h with
    | done => intro n; rfl
    | @blank c s bytes blank _ _ =>
      rw [isAsciiBlank_of_isDigit (digits c (by simp))] at blank
      cases blank
    | @pair c d high low s bytes hhigh hlow _ ih =>
      intro n
      have number : (n * 16 + high) * 16 + low = n * 256 + (high * 16 + low) := by omega
      simp only [List.foldlM_cons, pushDigit, hhigh, hlow, Option.map_some, Option.bind_eq_bind,
        Option.bind_some, List.foldl_cons, toNat_pair hhigh hlow, number]
      exact ih (fun c' mem => digits c' (by simp [mem])) _
  exact general 0

end LedgerGateway.Hex

namespace LedgerGateway

open Hex (Bytes Spells)

/-! ## Addresses and positions -/

/-- An address is read from exactly the texts that spell its bytes. -/
theorem address_read_eq_ok_iff (text : String) (a : Address) :
    Address.read text = .ok a ↔ Spells text a.bytes := by
  rw [← Hex.read_eq_ok_iff, Address.read]
  cases hread : Hex.read text with
  | error fault => simp
  | ok bytes =>
      obtain ⟨abytes, alength⟩ := a
      by_cases h : bytes.length = 20
      · simp [h]
      · simp only [h, dite_false, reduceCtorEq, Except.ok.injEq, false_iff]
        rintro rfl
        exact h alength

/-- Zero bytes in front of a number do not change it. -/
theorem bigEndian_replicate_zero (count : Nat) (bytes : Bytes) :
    bigEndian (List.replicate count 0 ++ bytes) = bigEndian bytes := by
  induction count with
  | zero => rfl
  | succ count ih => exact ih

/-- A slot number is read from exactly the texts that spell bytes, and is the number that these
spell, the highest first. -/
theorem readPosition_eq_ok_iff (text : String) (n : Nat) :
    readPosition text = .ok n ↔ ∃ bytes, Spells text bytes ∧ bigEndian bytes = n := by
  simp only [← Hex.read_eq_ok_iff, readPosition]
  cases Hex.read text with
  | error fault => simp
  | ok bytes => simp

end LedgerGateway
