import LedgerGateway.Decimal.Integer
import Mathlib.Data.List.TakeWhile
import Mathlib.Data.Nat.Digits.Defs

/-!
# Texts of integers

The grammar of the texts that are read as integers, told without the reader: blanks, a sign or none,
decimal digits of any script with single underscores between them, and blanks again. The digits are
in base ten, the highest first, and there are no more of them than the limit.

* `Grouped` — digits with underscores between them, and `readDigits_eq_some_iff`.
* `SpellsInteger` — the integer that a text spells, and `readInt_eq_some_iff`.
-/

namespace LedgerGateway.Decimal

open Text (digitValue?)

/-! ## Digits -/

/-- Digits with single underscores between them, and their values. -/
inductive Grouped : List Char → List Nat → Prop where
  | last {c : Char} {v : Nat} : digitValue? c = some v → Grouped [c] [v]
  | next {c : Char} {v : Nat} {cs : List Char} {vs : List Nat} : digitValue? c = some v →
      Grouped cs vs → Grouped (c :: cs) (v :: vs)
  | split {c : Char} {v : Nat} {cs : List Char} {vs : List Nat} : digitValue? c = some v →
      Grouped cs vs → Grouped (c :: '_' :: cs) (v :: vs)

theorem ne_of_digitValue? {c d : Char} {v : Nat} (h : digitValue? c = some v)
    (none : digitValue? d = none) : c ≠ d := by
  rintro rfl
  rw [none] at h
  cases h

/-- The reader has a digit in front of it, an underscore, or neither of the two. -/
theorem readDigits_cons {afterDigit : Bool} {c : Char} {v : Nat} (h : digitValue? c = some v)
    (rest : List Char) : readDigits afterDigit (c :: rest) = (readDigits true rest).map (v :: ·) := by
  rw [readDigits, if_neg (ne_of_digitValue? h (by decide)), h]

theorem grouped_of_readDigits {afterDigit : Bool} {cs : List Char} {vs : List Nat}
    (h : readDigits afterDigit cs = some vs) :
    Grouped cs vs ∨ afterDigit = true ∧ (cs = [] ∧ vs = [] ∨ ∃ rest, cs = '_' :: rest ∧
      Grouped rest vs) := by
  -- Behind a digit the text may end, or an underscore may come before the digits that follow.
  induction cs generalizing afterDigit vs with
  | nil =>
    rw [readDigits] at h
    split at h
    next after =>
      obtain rfl := Option.some.inj h
      exact .inr ⟨after, .inl ⟨rfl, rfl⟩⟩
    · cases h
  | cons c rest ih =>
    by_cases underscore : c = '_'
    · subst underscore
      rw [readDigits, if_pos rfl] at h
      split at h
      next after =>
        rcases ih h with digits | ⟨same, -⟩
        · exact .inr ⟨after, .inr ⟨rest, rfl, digits⟩⟩
        · cases same
      · cases h
    · rw [readDigits, if_neg underscore] at h
      split at h
      next v value =>
        obtain ⟨others, read, rfl⟩ := Option.map_eq_some_iff.1 h
        left
        rcases ih read with digits | ⟨-, ⟨rfl, rfl⟩ | ⟨more, rfl, digits⟩⟩
        · exact .next value digits
        · exact .last value
        · exact .split value digits
      · cases h

theorem Grouped.readDigits_eq {cs : List Char} {vs : List Nat} (h : Grouped cs vs)
    (afterDigit : Bool) : readDigits afterDigit cs = some vs := by
  induction h generalizing afterDigit with
  | last value => rw [readDigits_cons value]; rfl
  | next value _ ih => rw [readDigits_cons value, ih]; rfl
  | split value _ ih =>
    rw [readDigits_cons value, readDigits, if_pos rfl, if_pos rfl, ih]
    rfl

/-- From the start, exactly grouped digits are read. -/
theorem readDigits_eq_some_iff {cs : List Char} {vs : List Nat} :
    readDigits false cs = some vs ↔ Grouped cs vs := by
  constructor
  · intro h
    rcases grouped_of_readDigits h with digits | ⟨same, -⟩
    · exact digits
    · cases same
  · intro h
    exact h.readDigits_eq false

/-- Grouped digits begin and end with a digit. -/
theorem Grouped.ends {cs : List Char} {vs : List Nat} (h : Grouped cs vs) :
    (∃ c v rest, cs = c :: rest ∧ digitValue? c = some v) ∧
      ∃ front c v, cs = front ++ [c] ∧ digitValue? c = some v := by
  induction h with
  | last value => exact ⟨⟨_, _, _, rfl, value⟩, [], _, _, rfl, value⟩
  | @next c v cs vs value _ ih =>
    obtain ⟨-, front, d, w, rfl, last⟩ := ih
    exact ⟨⟨_, _, _, rfl, value⟩, c :: front, d, w, rfl, last⟩
  | @split c v cs vs value _ ih =>
    obtain ⟨-, front, d, w, rfl, last⟩ := ih
    exact ⟨⟨_, _, _, rfl, value⟩, c :: '_' :: front, d, w, rfl, last⟩

/-- Digits are read from the left as their value in base ten. -/
theorem ofDigits_eq_ofDigits (vs : List Nat) : ofDigits vs = Nat.ofDigits 10 vs.reverse := by
  rw [ofDigits, Nat.ofDigits_eq_foldr, List.foldr_reverse]
  simp only [Nat.cast_id, Nat.add_comm, Nat.mul_comm]

/-! ## Blanks -/

theorem exists_base_of_digitValueIn {bases : List Nat} {n v : Nat}
    (h : Text.digitValueIn bases n = some v) : ∃ base ∈ bases, base ≤ n ∧ n < base + 10 := by
  induction bases with
  | nil => cases h
  | cons base rest ih =>
    rw [Text.digitValueIn] at h
    split at h
    · cases h
    · split at h
      · exact ⟨base, List.mem_cons_self, by omega, by omega⟩
      · obtain ⟨other, mem, bounds⟩ := ih h
        exact ⟨other, List.mem_cons_of_mem _ mem, bounds⟩

/-- No digit is blank. -/
theorem not_blank_of_digitValue? {c : Char} {v : Nat} (h : digitValue? c = some v) :
    isIntegerBlank c = false := by
  obtain ⟨base, mem, low, high⟩ := exists_base_of_digitValueIn h
  have apart : ∀ base ∈ Text.digitZeros, ∀ r ∈ Text.blankRanges,
      base + 10 ≤ r.1 ∨ r.2 < base := by
    decide
  have ascii : ∀ base ∈ Text.digitZeros, 32 < base := by decide
  have increasing : Text.blankRanges.Increasing := by
    simp [Text.blankRanges, Text.CodeRanges.Increasing]
  rw [isIntegerBlank]
  split
  · have above := ascii base mem
    have space : c ≠ ' ' := by
      rintro rfl
      have : (' ' : Char).toNat = 32 := rfl
      omega
    rw [Text.isAsciiBlank, Bool.or_eq_false_iff, beq_eq_false_iff_ne, Bool.and_eq_false_iff,
      decide_eq_false_iff_not, decide_eq_false_iff_not]
    exact ⟨space, .inr (by omega)⟩
  · rw [← Bool.not_eq_true, Text.isBlank, Text.CodeRanges.mem_iff increasing]
    rintro ⟨r, range, bounds⟩
    rcases apart base mem r range with before | after
    · omega
    · omega

/-- What is not blank at its ends is what is left between blanks. -/
theorem trimBy_append {p : Char → Bool} {before body behind : List Char}
    (blankBefore : ∀ c ∈ before, p c = true) (blankBehind : ∀ c ∈ behind, p c = true)
    (first : ∃ c rest, body = c :: rest ∧ p c = false)
    (last : ∃ front c, body = front ++ [c] ∧ p c = false) :
    Text.trimBy p (before ++ (body ++ behind)) = body := by
  have left : (before ++ (body ++ behind)).dropWhile p = body ++ behind := by
    obtain ⟨c, rest, rfl, notBlank⟩ := first
    rw [List.dropWhile_append_of_pos blankBefore, List.cons_append]
    exact List.dropWhile_cons_of_neg (by simp [notBlank])
  have right : (body ++ behind).reverse.dropWhile p = body.reverse := by
    obtain ⟨front, c, rfl, notBlank⟩ := last
    have blank : ∀ c ∈ behind.reverse, p c = true := by
      intro c mem
      exact blankBehind c (List.mem_reverse.1 mem)
    rw [List.reverse_append, List.dropWhile_append_of_pos blank, List.reverse_append,
      List.reverse_singleton, List.singleton_append]
    exact List.dropWhile_cons_of_neg (by simp [notBlank])
  rw [Text.trimBy, left, right, List.reverse_reverse]

/-- A text is what is left of it, between blanks. -/
theorem exists_trimBy (p : Char → Bool) (s : List Char) :
    ∃ before behind, (∀ c ∈ before, p c = true) ∧ (∀ c ∈ behind, p c = true) ∧
      s = before ++ (Text.trimBy p s ++ behind) := by
  refine ⟨s.takeWhile p, ((s.dropWhile p).reverse.takeWhile p).reverse, ?_, ?_, ?_⟩
  · intro c mem
    exact List.mem_takeWhile_imp mem
  · intro c mem
    exact List.mem_takeWhile_imp (List.mem_reverse.1 mem)
  · have kept : Text.trimBy p s ++ ((s.dropWhile p).reverse.takeWhile p).reverse = s.dropWhile p := by
      rw [Text.trimBy, ← List.reverse_append, List.takeWhile_append_dropWhile, List.reverse_reverse]
    rw [kept, List.takeWhile_append_dropWhile]

/-! ## Integers -/

/-- A sign, and whether it is that of a negative number. Without a sign a number is not. -/
inductive Sign : List Char → Bool → Prop where
  | none : Sign [] false
  | plus : Sign ['+'] false
  | minus : Sign ['-'] true

/-- The text spells the integer: digits behind a sign, and blanks around them. -/
inductive SpellsInteger (s : String) : Int → Prop where
  | mk {before sign digits behind : List Char} {negative : Bool} {vs : List Nat} :
      (∀ c ∈ before, isIntegerBlank c = true) → Sign sign negative → Grouped digits vs →
      (∀ c ∈ behind, isIntegerBlank c = true) → vs.length ≤ digitLimit →
      s.toList = before ++ (sign ++ digits ++ behind) →
      SpellsInteger s (if negative then -(Nat.ofDigits 10 vs.reverse : Nat)
        else (Nat.ofDigits 10 vs.reverse : Nat))

/-- In front of digits a sign is taken off, and nothing else. -/
theorem takeSign_append {sign digits : List Char} {negative : Bool} {vs : List Nat}
    (h : Sign sign negative) (isDigits : Grouped digits vs) :
    takeSign (sign ++ digits) = (negative, digits) := by
  cases h with
  | plus => rfl
  | minus => rfl
  | none =>
    obtain ⟨⟨c, v, rest, rfl, value⟩, -⟩ := isDigits.ends
    have minus : c ≠ '-' := ne_of_digitValue? value (by decide)
    have plus : c ≠ '+' := ne_of_digitValue? value (by decide)
    rw [List.nil_append, takeSign]
    · rintro _ same
      exact minus (List.cons.inj same).1
    · rintro _ same
      exact plus (List.cons.inj same).1

theorem exists_sign (s : List Char) :
    ∃ sign, Sign sign (takeSign s).1 ∧ s = sign ++ (takeSign s).2 := by
  unfold takeSign
  split
  · exact ⟨_, .minus, rfl⟩
  · exact ⟨_, .plus, rfl⟩
  · exact ⟨_, .none, rfl⟩

/-- A signed run of digits has no blank at its ends. -/
theorem Sign.ends {sign digits : List Char} {negative : Bool} {vs : List Nat}
    (h : Sign sign negative) (isDigits : Grouped digits vs) :
    (∃ c rest, sign ++ digits = c :: rest ∧ isIntegerBlank c = false) ∧
      ∃ front c, sign ++ digits = front ++ [c] ∧ isIntegerBlank c = false := by
  obtain ⟨⟨first, v, rest, head, value⟩, front, last, w, tail, value'⟩ := isDigits.ends
  have notBlank := not_blank_of_digitValue? value
  have notBlank' := not_blank_of_digitValue? value'
  constructor
  · cases h with
    | none => exact ⟨first, rest, head, notBlank⟩
    | plus => exact ⟨'+', digits, rfl, by decide⟩
    | minus => exact ⟨'-', digits, rfl, by decide⟩
  · exact ⟨sign ++ front, last, by rw [tail, List.append_assoc], notBlank'⟩

/-- **Which texts are read as an integer.** Those that spell it. -/
theorem readInt_eq_some_iff {s : String} {n : Int} : readInt s = some n ↔ SpellsInteger s n := by
  constructor
  · intro h
    obtain ⟨before, behind, blankBefore, blankBehind, whole⟩ :=
      exists_trimBy isIntegerBlank s.toList
    obtain ⟨sign, isSign, signed⟩ := exists_sign (Text.trimBy isIntegerBlank s.toList)
    rw [readInt] at h
    split at h
    next negative body taken =>
    rw [taken] at isSign signed
    split at h
    · cases h
    next vs read =>
    split at h
    · cases h
    next few =>
    obtain rfl := Option.some.inj h
    rw [ofDigits_eq_ofDigits]
    rw [signed] at whole
    exact .mk blankBefore isSign (readDigits_eq_some_iff.1 read) blankBehind (Nat.not_lt.1 few) whole
  · intro h
    cases h with
    | mk blankBefore isSign isDigits blankBehind few whole =>
      obtain ⟨first, last⟩ := isSign.ends isDigits
      rw [readInt, whole, trimBy_append blankBefore blankBehind first last,
        takeSign_append isSign isDigits]
      simp only [readDigits_eq_some_iff.2 isDigits, Nat.not_lt.2 few, if_false, ofDigits_eq_ofDigits]

end LedgerGateway.Decimal
