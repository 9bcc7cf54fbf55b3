import LedgerGateway.Json.Writer
import LedgerGateway.Proofs.JsonGrammar
import LedgerGateway.Proofs.Quantities
import Mathlib.Tactic.SplitIfs

/-!
# Written strings are spelt

The writer escapes a character in one of three ways, or not at all: with a letter, as one code unit,
or as the two halves of a pair. Each is a spelling of that character, whatever comes behind it.

* `exists_padded` — four digits for every code unit.
* `Quoted.writeChar`, `Quoted.writeString` — characters and strings.
* `label_written` — a name with its colon.
-/

namespace LedgerGateway.Hex

/-! ## Code units -/

theorem value?_zeros (k : Nat) (ds : List Char) :
    value? (List.replicate k '0' ++ ds) = value? ds := by
  induction k with
  | zero => rfl
  | succ k ih =>
    rw [← ih, List.replicate_succ, List.cons_append]
    rfl

/-- A code unit has four digits, and they are read as it. -/
theorem exists_padded {n : Nat} (h : n < 0x10000) :
    ∃ a b c d, padded 4 n = [a, b, c, d] ∧ value? [a, b, c, d] = some n := by
  have length : (padded 4 n).length = 4 := by
    have short : (digits n).length ≤ 4 := (length_digits_le_iff (by decide)).2 h
    rw [padded, List.length_append, List.length_replicate]
    omega
  have value : value? (padded 4 n) = some n := by rw [padded, value?_zeros, value?_digits]
  obtain ⟨a, b, c, d, eq⟩ : ∃ a b c d, padded 4 n = [a, b, c, d] := by
    match padded 4 n, length with
    | [a, b, c, d], _ => exact ⟨a, b, c, d, rfl⟩
  exact ⟨a, b, c, d, eq, eq ▸ value⟩

end LedgerGateway.Hex

namespace LedgerGateway.Json

/-! ## Characters -/

theorem unitChar_toNat {c : Char} : unitChar c.toNat = c := by
  have valid : c.toNat < 0xD800 ∨ 0xDFFF < c.toNat ∧ c.toNat < 0x110000 := c.valid
  have whole : (isHighHalf c.toNat || isLowHalf c.toNat) = false := by
    simp only [isHighHalf, isLowHalf, Bool.or_eq_false_iff, Bool.and_eq_false_iff,
      decide_eq_false_iff_not]
    omega
  rw [unitChar, whole]
  exact c.ofNat_toNat

theorem joinHalves_split (m : Nat) :
    joinHalves (0xD800 + m / 0x400) (0xDC00 + m % 0x400) = 0x10000 + m := by
  have whole := Nat.div_add_mod m 0x400
  unfold joinHalves
  rw [Nat.add_sub_cancel_left, Nat.add_sub_cancel_left, Nat.mul_comm, Nat.add_assoc, whole]

/-- The escape of a character is one code unit, or the halves of a pair. -/
theorem Quoted.numbered (c : Char) {t q : List Char} (h : Quoted t q) :
    Quoted (c :: t) (numbered c.toNat ++ q) := by
  have valid : c.toNat < 0xD800 ∨ 0xDFFF < c.toNat ∧ c.toNat < 0x110000 := c.valid
  unfold Json.numbered
  split
  · next small =>
    obtain ⟨a, b, c', d, eq, digits⟩ := Hex.exists_padded small
    -- No character is half a pair, so what follows does not matter.
    have notHigh : isHighHalf c.toNat = true → ¬ LowNext q := by
      intro high
      simp only [isHighHalf, Bool.and_eq_true, decide_eq_true_eq] at high
      omega
    have spelt := Quoted.alone digits notHigh h
    rw [unitChar_toNat] at spelt
    rw [unitEscape, eq]
    exact spelt
  · next large =>
    -- Outside of the basic plane the character is written as two halves, which are read together.
    obtain ⟨m, hm⟩ : ∃ m, c.toNat = 0x10000 + m := ⟨c.toNat - 0x10000, by omega⟩
    have room : m < 0x100000 := by omega
    have sub : c.toNat - 0x10000 = m := by omega
    rw [sub]
    obtain ⟨a, b, e, d, eq, digits⟩ := @Hex.exists_padded (0xD800 + m / 0x400) (by omega)
    obtain ⟨a', b', e', d', eq', digits'⟩ := @Hex.exists_padded (0xDC00 + m % 0x400) (by omega)
    have high : isHighHalf (0xD800 + m / 0x400) = true := by
      simp only [isHighHalf, Bool.and_eq_true, decide_eq_true_eq]
      omega
    have low : isLowHalf (0xDC00 + m % 0x400) = true := by
      simp only [isLowHalf, Bool.and_eq_true, decide_eq_true_eq]
      omega
    have spelt := Quoted.pair digits high digits' low h
    rw [joinHalves_split, ← hm, c.ofNat_toNat] at spelt
    rw [unitEscape, unitEscape, eq, eq']
    exact spelt

theorem Quoted.writeChar (ascii : Bool) (c : Char) {t q : List Char} (h : Quoted t q) :
    Quoted (c :: t) (writeChar ascii c ++ q) := by
  unfold Json.writeChar
  split_ifs with quote backslash newline return_ tab back feed plain
  · rw [quote]
    exact .short rfl h
  · rw [backslash]
    exact .short rfl h
  · rw [newline]
    exact .short rfl h
  · rw [return_]
    exact .short rfl h
  · rw [tab]
    exact .short rfl h
  · rw [back]
    exact .short rfl h
  · rw [feed]
    exact .short rfl h
  · rw [isPlain, Bool.and_eq_true, decide_eq_true_eq] at plain
    exact .plain plain.1 quote backslash h
  · exact h.numbered c

/-! ## Strings -/

/-- A string that is written is spelt. -/
theorem Quoted.writeString (ascii : Bool) (s : String) :
    ∃ q, Quoted s.toList q ∧ writeString ascii s = '"' :: q := by
  refine ⟨s.toList.flatMap (Json.writeChar ascii) ++ ['"'], ?_, rfl⟩
  induction s.toList with
  | nil => exact .done
  | cons c t ih =>
    rw [List.flatMap_cons, List.append_assoc]
    exact ih.writeChar ascii c

/-- The marks of a style are marks of the grammar. -/
structure Style.Regular (style : Style) : Prop where
  comma : Marked ',' style.comma
  colon : Marked ':' style.colon

theorem spaced_regular : Style.spaced.Regular := by
  have gap : Gap [' '] := fun c mem => by
    obtain rfl := List.mem_singleton.1 mem
    rfl
  exact ⟨⟨[], [' '], gap_nil, gap, rfl⟩, ⟨[], [' '], gap_nil, gap, rfl⟩⟩

theorem compact_regular : Style.compact.Regular :=
  ⟨⟨[], [], gap_nil, gap_nil, rfl⟩, ⟨[], [], gap_nil, gap_nil, rfl⟩⟩

/-- A name is written with its colon. -/
theorem label_written {style : Style} (regular : style.Regular) (name : String) :
    Label name (writeString style.ascii name ++ style.colon) := by
  obtain ⟨q, quoted, eq⟩ := Quoted.writeString style.ascii name
  have label := Label.mk quoted regular.colon
  rw [String.ofList_toList] at label
  rw [eq]
  exact label

end LedgerGateway.Json
