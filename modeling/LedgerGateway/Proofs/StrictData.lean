import LedgerGateway.Proofs.Quantities

/-!
# Digits and nothing else

Behind its mark, data should be an even number of digits of either case and nothing else. The reader
passes over blanks around the pairs as well, so it takes some texts that hold more than digits.

* `Exact` — a text is read if it is digits alone, and refused otherwise; what is read is written as
  the same digits in lower case.
* `Spaced` — the texts that spell bytes with blanks around their pairs.
* `exact_iff` — texts are treated exactly, except for the spaced ones.
-/

namespace LedgerGateway.Hex

/-- An even number of digits of either case; there may be none. -/
structure DigitPairs (s : List Char) : Prop where
  digits : ∀ c ∈ s, isDigit c = true
  even : s.length % 2 = 0

/-- The result of reading a text: bytes if there are digits alone behind the mark, which are written
as these digits in lower case, and a fault otherwise. -/
structure Exact (text : String) (result : Except Fault Bytes) : Prop where
  accepted : (∃ bytes, result = .ok bytes) ↔ DigitPairs (unmarked text.toList)
  written : ∀ bytes, result = .ok bytes →
    encode bytes = String.ofList ((unmarked text.toList).map Char.toLower)
  refused : (∃ fault, result = .error fault) ↔ ¬ DigitPairs (unmarked text.toList)

/-- The text spells bytes, and there is a blank in it. -/
structure Spaced (text : String) : Prop where
  spells : ∃ bytes, Spells text bytes
  blank : ∃ c ∈ text.toList, Text.isAsciiBlank c = true

theorem spells_iff_pairs (text : String) (bytes : Bytes) :
    Spells text bytes ↔ Pairs (unmarked text.toList) bytes :=
  (pairs_unmarked_iff text.toList bytes).symm

/-- A blank is no part of the mark. -/
theorem mem_unmarked_of_blank {s : List Char} {c : Char} (mem : c ∈ s)
    (blank : Text.isAsciiBlank c = true) : c ∈ unmarked s := by
  unfold unmarked
  split
  · simp only [List.mem_cons] at mem
    rcases mem with rfl | rfl | behind
    · exact absurd blank (by decide)
    · exact absurd blank (by decide)
    · exact behind
  · simp only [List.mem_cons] at mem
    rcases mem with rfl | rfl | behind
    · exact absurd blank (by decide)
    · exact absurd blank (by decide)
    · exact behind
  · exact mem

theorem mem_of_mem_unmarked {s : List Char} {c : Char} (mem : c ∈ unmarked s) : c ∈ s := by
  unfold unmarked at mem
  split at mem
  · exact List.mem_cons_of_mem _ (List.mem_cons_of_mem _ mem)
  · exact List.mem_cons_of_mem _ (List.mem_cons_of_mem _ mem)
  · exact mem

/-- What spells bytes is digits alone, if there is no blank in it. -/
theorem Pairs.digitPairs {s : List Char} {bytes : Bytes} (h : Pairs s bytes)
    (solid : ¬ ∃ c ∈ s, Text.isAsciiBlank c = true) : DigitPairs s := by
  obtain ⟨even, digits⟩ := h.digits_or_blank.resolve_right solid
  exact ⟨digits, even⟩

/-- **Which texts are treated exactly.** All of them but the spaced ones, which are read though they
are not digits alone. -/
theorem exact_iff (text : String) : Exact text (read text) ↔ ¬ Spaced text := by
  constructor
  · rintro exact ⟨⟨bytes, spells⟩, c, mem, blank⟩
    have accepted := exact.accepted.1 ⟨bytes, (read_eq_ok_iff text bytes).2 spells⟩
    have digit := accepted.digits c (mem_unmarked_of_blank mem blank)
    rw [isAsciiBlank_of_isDigit digit] at blank
    cases blank
  · intro solid
    have digits {bytes : Bytes} (spells : Spells text bytes) :
        DigitPairs (unmarked text.toList) := by
      refine ((spells_iff_pairs text bytes).1 spells).digitPairs ?_
      rintro ⟨c, mem, blank⟩
      exact solid ⟨⟨bytes, spells⟩, c, mem_of_mem_unmarked mem, blank⟩
    have spells : (∃ bytes, Spells text bytes) ↔ DigitPairs (unmarked text.toList) := by
      refine ⟨fun ⟨_, spells⟩ => digits spells, fun h => ?_⟩
      obtain ⟨bytes, pairs, -⟩ := exists_pairs _ h.even h.digits
      exact ⟨bytes, (spells_iff_pairs text bytes).2 pairs⟩
    constructor
    case accepted => simpa only [read_eq_ok_iff] using spells
    case written =>
      intro bytes read
      have spelt := (read_eq_ok_iff text bytes).1 read
      rw [encode, ((spells_iff_pairs text bytes).1 spelt).map_toLower (digits spelt).digits]
    case refused => rw [read_eq_error_iff, ← spells, not_exists]

/-- Two pairs of digits with a blank between them are read as two bytes. -/
theorem not_exact_blank_between : ¬ Exact "00 11" (read "00 11") := by
  intro exact
  have accepted := exact.accepted.1 ⟨[0x00, 0x11], rfl⟩
  exact absurd (accepted.digits ' ' (by decide)) (by decide)

end LedgerGateway.Hex
