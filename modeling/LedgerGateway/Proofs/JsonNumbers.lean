import LedgerGateway.Proofs.JsonGrammar
import Mathlib.Data.List.TakeWhile

/-!
# Reading the numbers of JSON

The scanner of numerals goes as far as it can: what it finds is the longest numeral in front of the
text, so `1.x` is the numeral `1` and `1e+` too. The whole part, the fraction and the exponent are
scanned one behind the other, and each of them has a lemma on how far it goes.

* `spells_of_scan` — the numeral that is scanned stands in front of the text.
* `scan_append` — a numeral that is spelt is scanned whole, whatever follows it.
* `scan_eq_some_iff` — the numeral that is scanned is the longest one.
-/

namespace LedgerGateway.Json.Numeral

open Decimal (digitLimit)

/-! ## The parts of a numeral in front of a text -/

theorem scan_eq (negative : Bool) {first : Char} (rest : List Char)
    (digit : first.isDigit = true) :
    scan ((if negative then ['-'] else []) ++ first :: rest) =
      some ⟨negative, first, scanMore first rest,
        scanFraction (rest.drop (scanMore first rest).length),
        scanExponent (behindFraction (rest.drop (scanMore first rest).length))⟩ := by
  have sign : first ≠ '-' := by
    rintro rfl
    exact absurd digit (by decide)
  cases negative <;> simp [scan, digit, sign, scanMore, behindFraction]

theorem exists_of_scan {text : List Char} {n : Numeral} (h : scan text = some n) :
    ∃ (negative : Bool) (first : Char) (rest : List Char), first.isDigit = true ∧
      text = (if negative then ['-'] else []) ++ first :: rest := by
  by_cases sign : text.head? = some '-'
  · obtain ⟨body, rfl⟩ := List.head?_eq_some_iff.1 sign
    obtain _ | ⟨first, rest⟩ := body
    · exact absurd h (by simp [scan])
    by_cases digit : first.isDigit = true
    · exact ⟨true, first, rest, digit, rfl⟩
    · exact absurd h (by simp [scan, digit])
  · obtain _ | ⟨first, rest⟩ := text
    · exact absurd h (by simp [scan])
    by_cases digit : first.isDigit = true
    · exact ⟨false, first, rest, digit, rfl⟩
    · exact absurd h (by simp_all [scan])

theorem scanMore_append_drop (first : Char) (rest : List Char) :
    scanMore first rest ++ rest.drop (scanMore first rest).length = rest := by
  unfold scanMore
  split
  · rfl
  · exact List.prefix_iff_eq_append.1 (List.takeWhile_prefix _)

theorem fraction_append_behind (s : List Char) :
    (if (scanFraction s).isEmpty then [] else '.' :: scanFraction s) ++ behindFraction s = s := by
  unfold behindFraction fractionLength
  split
  · rfl
  · next some_ =>
    unfold scanFraction at some_ ⊢
    split at some_
    · next rest =>
      simp only [List.drop_succ_cons, List.cons_append, List.cons.injEq, true_and]
      exact List.prefix_iff_eq_append.1 (List.takeWhile_prefix _)
    · exact absurd rfl some_

theorem scanSign_append_drop (s : List Char) :
    scanSign s ++ s.drop (scanSign s).length = s := by
  unfold scanSign
  split <;> rfl

theorem scanSign_cases (s : List Char) :
    scanSign s = [] ∨ scanSign s = ['+'] ∨ scanSign s = ['-'] := by
  unfold scanSign
  split <;> simp

theorem scanExponent_cons {letter : Char} (rest : List Char) (h : letter = 'e' ∨ letter = 'E') :
    scanExponent (letter :: rest) =
      if ((rest.drop (scanSign rest).length).takeWhile Char.isDigit).isEmpty then none
      else some (scanSign rest, (rest.drop (scanSign rest).length).takeWhile Char.isDigit) := by
  simp only [scanExponent, if_pos h]

theorem exponent_append_drop (s : List Char) :
    ∃ letter, (letter = 'e' ∨ letter = 'E') ∧
      exponentChars letter (scanExponent s) ++ s.drop (exponentLength (scanExponent s)) = s := by
  have nothing : ∃ letter, (letter = 'e' ∨ letter = 'E') ∧ exponentChars letter none ++ s = s :=
    ⟨'e', .inl rfl, rfl⟩
  obtain _ | ⟨letter, rest⟩ := s
  · exact nothing
  by_cases h : letter = 'e' ∨ letter = 'E'
  · rw [scanExponent_cons rest h]
    split
    · exact nothing
    · refine ⟨letter, h, ?_⟩
      have signed := scanSign_append_drop rest
      have digits := List.prefix_iff_eq_append.1
        (List.takeWhile_prefix Char.isDigit (l := rest.drop (scanSign rest).length))
      simp only [exponentChars, exponentLength, List.cons_append, List.append_assoc,
        List.drop_succ_cons, List.cons.injEq, true_and, ← List.drop_drop]
      rw [digits, signed]
  · simp only [scanExponent, if_neg h]
    exact nothing

/-! ## What is scanned is spelt -/

theorem digits_takeWhile (s : List Char) : Digits (s.takeWhile Char.isDigit) :=
  fun _ => List.mem_takeWhile_imp

theorem digits_scanFraction (s : List Char) : Digits (scanFraction s) := by
  unfold scanFraction
  split
  · exact digits_takeWhile _
  · intro c h
    exact absurd h (by simp)

theorem regular_of_scanExponent {s sign ds : List Char} (h : scanExponent s = some (sign, ds)) :
    (sign = [] ∨ sign = ['+'] ∨ sign = ['-']) ∧ ds ≠ [] ∧ Digits ds := by
  obtain _ | ⟨letter, rest⟩ := s
  · exact absurd h (by simp [scanExponent])
  by_cases e : letter = 'e' ∨ letter = 'E'
  · rw [scanExponent_cons rest e] at h
    split at h
    · exact absurd h (by simp)
    · next some_ =>
      simp only [Option.some.injEq, Prod.mk.injEq] at h
      obtain ⟨rfl, rfl⟩ := h
      exact ⟨scanSign_cases rest, by simpa using some_, digits_takeWhile _⟩
  · exact absurd h (by simp [scanExponent, e])

theorem Spells.length_eq {n : Numeral} {s : List Char} (h : n.Spells s) : s.length = n.length := by
  obtain ⟨-, letter, -, rfl⟩ := h
  have exponent : (exponentChars letter n.exponent).length = exponentLength n.exponent := by
    cases n.exponent with
    | none => rfl
    | some e => simp [exponentChars, exponentLength]
  have fraction : n.fractionChars.length = fractionLength n.fraction := by
    unfold fractionChars fractionLength
    split <;> simp
  have sign : (if n.negative then ['-'] else []).length = if n.negative then 1 else 0 := by
    split <;> rfl
  simp only [chars, length, List.length_append, List.length_cons, exponent, fraction, sign]
  omega

/-- The numeral that is scanned stands in front of the text. -/
theorem spells_of_scan {text : List Char} {n : Numeral} (h : scan text = some n) :
    ∃ s, n.Spells s ∧ s ++ text.drop n.length = text := by
  obtain ⟨negative, first, rest, digit, rfl⟩ := exists_of_scan h
  rw [scan_eq negative rest digit, Option.some.injEq] at h
  have whole := scanMore_append_drop first rest
  have point := fraction_append_behind (rest.drop (scanMore first rest).length)
  obtain ⟨letter, e, power⟩ :=
    exponent_append_drop (behindFraction (rest.drop (scanMore first rest).length))
  have spells : n.Spells (n.chars letter) := by
    refine ⟨?_, letter, e, rfl⟩
    subst h
    refine ⟨digit, ?_, fun zero => if_pos zero, digits_scanFraction _, ?_⟩
    · show Digits (scanMore first rest)
      unfold scanMore
      split
      · intro c h
        exact absurd h (by simp)
      · exact digits_takeWhile _
    · intro sign ds some_
      exact regular_of_scanExponent some_
  -- The parts, with what is left behind the last of them, make up the text again.
  have front : n.chars letter <+: (if negative then ['-'] else []) ++ first :: rest := by
    refine ⟨(behindFraction (rest.drop (scanMore first rest).length)).drop
      (exponentLength n.exponent), ?_⟩
    subst h
    simp only [chars, fractionChars, List.append_assoc, List.cons_append] at whole point power ⊢
    rw [power, point, whole]
  refine ⟨n.chars letter, spells, ?_⟩
  rw [← spells.length_eq]
  exact List.prefix_iff_eq_append.1 front

/-! ## What is spelt is scanned -/

/-- No numeral goes on in this text. -/
def Ends (r : List Char) : Prop :=
  ∀ c, r.head? = some c → c.isDigit = false ∧ c ≠ '.' ∧ c ≠ 'e' ∧ c ≠ 'E'

theorem Ends.takeWhile_eq_nil {r : List Char} (h : Ends r) : r.takeWhile Char.isDigit = [] := by
  cases r with
  | nil => rfl
  | cons c r => simp [(h c rfl).1]

theorem Ends.scanExponent_eq {r : List Char} (h : Ends r) : scanExponent r = none := by
  cases r with
  | nil => rfl
  | cons c r => simp [scanExponent, (h c rfl).2.2]

theorem Ends.scanFraction_eq {r : List Char} (h : Ends r) : scanFraction r = [] := by
  unfold scanFraction
  split
  · next rest => exact absurd rfl (h '.' rfl).2.1
  · rfl

theorem Digits.takeWhile_append {ds : List Char} (h : Digits ds) (r : List Char) :
    (ds ++ r).takeWhile Char.isDigit = ds ++ r.takeWhile Char.isDigit :=
  List.takeWhile_append_of_pos h

/-- The exponent is scanned whole. -/
theorem scanExponent_append {letter : Char} {x : Option (List Char × List Char)}
    (e : letter = 'e' ∨ letter = 'E')
    (regular : ∀ sign ds, x = some (sign, ds) →
      (sign = [] ∨ sign = ['+'] ∨ sign = ['-']) ∧ ds ≠ [] ∧ Digits ds) (r : List Char) :
    exponentLength x ≤ exponentLength (scanExponent (exponentChars letter x ++ r)) ∧
      (Ends r → scanExponent (exponentChars letter x ++ r) = x) := by
  obtain _ | ⟨sign, ds⟩ := x
  · exact ⟨Nat.zero_le _, fun ends => ends.scanExponent_eq⟩
  obtain ⟨signs, some_, digits⟩ := regular sign ds rfl
  have signed : scanSign (sign ++ (ds ++ r)) = sign := by
    obtain ⟨d, ds, rfl⟩ := List.exists_cons_of_ne_nil some_
    have digit : d.isDigit = true := digits d (by simp)
    obtain rfl | rfl | rfl := signs
    · unfold scanSign
      split
      · next eq => exact absurd digit (by simp [(List.cons.inj eq).1])
      · next eq => exact absurd digit (by simp [(List.cons.inj eq).1])
      · rfl
    · rfl
    · rfl
  have scanned : scanExponent (exponentChars letter (some (sign, ds)) ++ r) =
      some (sign, ds ++ r.takeWhile Char.isDigit) := by
    rw [exponentChars, List.cons_append, List.append_assoc, scanExponent_cons _ e, signed,
      List.drop_left, digits.takeWhile_append, if_neg (by simp [some_])]
  rw [scanned]
  constructor
  · simp [exponentLength]
  · intro ends
    rw [ends.takeWhile_eq_nil, List.append_nil]

/-- The whole part is scanned to its end, and no further if no digit follows. -/
theorem scanMore_append {first : Char} {more : List Char} (digits : Digits more)
    (zero : first = '0' → more = []) (t : List Char) :
    more.length ≤ (scanMore first (more ++ t)).length ∧
      (t.takeWhile Char.isDigit = [] → scanMore first (more ++ t) = more) := by
  unfold scanMore
  split
  · next h => simp [zero h]
  · rw [digits.takeWhile_append]
    exact ⟨by simp, fun stops => by rw [stops, List.append_nil]⟩

/-- The fraction is scanned to its end, and no further if neither digit nor point follows. -/
theorem scanFraction_append {n : Numeral} (digits : Digits n.fraction) (t : List Char) :
    fractionLength n.fraction ≤ fractionLength (scanFraction (n.fractionChars ++ t)) ∧
      (t.takeWhile Char.isDigit = [] → scanFraction t = [] →
        scanFraction (n.fractionChars ++ t) = n.fraction ∧
          behindFraction (n.fractionChars ++ t) = t) := by
  by_cases none_ : n.fraction = []
  · refine ⟨by simp [none_, fractionLength], fun _ stops => ?_⟩
    simp [fractionChars, none_, behindFraction, stops, fractionLength]
  · have scanned : scanFraction (n.fractionChars ++ t) =
        n.fraction ++ t.takeWhile Char.isDigit := by
      simp [fractionChars, none_, scanFraction, digits.takeWhile_append]
    refine ⟨by simp [scanned, fractionLength, none_], fun stops _ => ?_⟩
    rw [stops, List.append_nil] at scanned
    refine ⟨scanned, ?_⟩
    rw [behindFraction, scanned]
    simp [fractionChars, fractionLength, none_]

theorem exponentChars_stops {letter : Char} (e : letter = 'e' ∨ letter = 'E')
    {x : Option (List Char × List Char)} {r : List Char} (h : x ≠ none ∨ Ends r) :
    (exponentChars letter x ++ r).takeWhile Char.isDigit = [] ∧
      scanFraction (exponentChars letter x ++ r) = [] := by
  cases x with
  | none =>
    have ends : Ends r := h.resolve_left (by simp)
    exact ⟨ends.takeWhile_eq_nil, ends.scanFraction_eq⟩
  | some p =>
    obtain rfl | rfl := e <;>
      exact ⟨List.takeWhile_cons_of_neg (by decide), by simp [exponentChars, scanFraction]⟩

theorem fractionChars_stops {n : Numeral} {t : List Char}
    (h : n.fraction ≠ [] ∨ t.takeWhile Char.isDigit = []) :
    (n.fractionChars ++ t).takeWhile Char.isDigit = [] := by
  by_cases none_ : n.fraction = []
  · simpa [fractionChars, none_] using h
  · simp [fractionChars, none_]

/-- A numeral that is spelt is scanned whole, and exactly if no numeral goes on behind it. -/
theorem scan_append {n : Numeral} {s : List Char} (h : n.Spells s) (r : List Char) :
    ∃ m, scan (s ++ r) = some m ∧ s.length ≤ m.length ∧ (Ends r → m = n) := by
  have len := h.length_eq
  obtain ⟨regular, letter, e, rfl⟩ := h
  obtain ⟨behind, behindEq⟩ : ∃ t, t = exponentChars letter n.exponent ++ r := ⟨_, rfl⟩
  obtain ⟨moreLe, moreEq⟩ := scanMore_append regular.more regular.zero (n.fractionChars ++ behind)
  obtain ⟨fractionLe, fractionEq⟩ := scanFraction_append regular.fraction behind
  obtain ⟨exponentLe, exponentEq⟩ := scanExponent_append e regular.exponent r
  rw [← behindEq] at exponentLe exponentEq
  have exact (stops : n.exponent ≠ none ∨ Ends r) :
      scanMore n.first (n.more ++ (n.fractionChars ++ behind)) = n.more ∧
        scanFraction (n.fractionChars ++ behind) = n.fraction ∧
        behindFraction (n.fractionChars ++ behind) = behind := by
    obtain ⟨noDigit, noPoint⟩ := exponentChars_stops (r := r) e stops
    rw [← behindEq] at noDigit noPoint
    exact ⟨moreEq (fractionChars_stops (.inr noDigit)), fractionEq noDigit noPoint⟩
  have front : n.chars letter ++ r =
      (if n.negative then ['-'] else []) ++ n.first :: (n.more ++ (n.fractionChars ++ behind)) := by
    simp [chars, behindEq]
  rw [front, scan_eq n.negative _ regular.first]
  refine ⟨_, rfl, ?_, fun ends => ?_⟩
  · rw [len]
    -- Only the last part that is there can have been scanned further than it is spelt.
    by_cases power : n.exponent = none
    · by_cases point : n.fraction = []
      · simp only [length, power, point, exponentLength, fractionLength, List.isEmpty_nil, if_true]
        omega
      · have more := moreEq (fractionChars_stops (.inl point))
        simp only [length, power, exponentLength, more, List.drop_left]
        omega
    · obtain ⟨more, fraction, left⟩ := exact (.inl power)
      simp only [length, more, List.drop_left, fraction, left]
      omega
  · obtain ⟨more, fraction, left⟩ := exact (.inr ends)
    simp only [more, List.drop_left, fraction, left, exponentEq ends]

theorem scan_of_spells {n : Numeral} {s r : List Char} (h : n.Spells s) (ends : Ends r) :
    scan (s ++ r) = some n := by
  obtain ⟨m, scanned, -, exact⟩ := scan_append h r
  rw [scanned, exact ends]

/-- A text spells at most one numeral. -/
theorem Spells.unique {n m : Numeral} {s : List Char} (h : n.Spells s) (h' : m.Spells s) :
    n = m := by
  have ends : Ends [] := fun c h => absurd h (by simp)
  exact Option.some.inj ((scan_of_spells h ends).symm.trans (scan_of_spells h' ends))

/-- The numeral that is scanned is the longest one in front of the text. -/
theorem scan_eq_some_iff {text : List Char} {n : Numeral} :
    scan text = some n ↔ n.Longest text := by
  constructor
  · intro h
    obtain ⟨s, spells, rest⟩ := spells_of_scan h
    refine ⟨s, spells, ⟨_, rest⟩, fun n' s' spells' front => ?_⟩
    obtain ⟨r, rfl⟩ := front
    obtain ⟨m, scanned, longer, -⟩ := scan_append spells' r
    rw [h, Option.some.injEq] at scanned
    rw [spells.length_eq, scanned]
    exact longer
  · rintro ⟨s, spells, ⟨r, rfl⟩, longest⟩
    obtain ⟨m, scanned, longer, -⟩ := scan_append spells r
    obtain ⟨s', spells', rest⟩ := spells_of_scan scanned
    -- What is scanned is as long as the longest numeral, and so it is that one.
    have shorter := longest m s' spells' ⟨_, rest⟩
    have same : s' = s := by
      have front : s' <+: s ++ r := ⟨_, rest⟩
      have len : s'.length = s.length := by
        have := spells'.length_eq
        omega
      rw [List.prefix_iff_eq_take.1 front, len, List.take_left]
    rw [same] at spells'
    rw [scanned, spells'.unique spells]

/-! ## The value of a numeral -/

theorem value_cases (n : Numeral) :
    (n.value = .ok n.number ∧ (n.isInteger = true → n.count ≤ digitLimit)) ∨
      (n.value = .error (.tooManyDigits n.count) ∧ n.isInteger = true ∧ digitLimit < n.count) := by
  unfold value
  split
  · next h =>
    simp only [Bool.and_eq_true, decide_eq_true_eq] at h
    exact .inr ⟨rfl, h.1, h.2⟩
  · next h =>
    simp only [Bool.and_eq_true, decide_eq_true_eq, not_and, Nat.not_lt] at h
    exact .inl ⟨rfl, h⟩

end LedgerGateway.Json.Numeral
