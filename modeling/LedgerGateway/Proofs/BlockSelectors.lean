import LedgerGateway.Proofs.Quantities
import LedgerGateway.Proofs.WritableLiterals
import Mathlib.Data.List.Forall2
import Mathlib.Data.Nat.Digits.Defs

/-!
# Which values select a block

The grammar of block selectors, told without the parser: two tags, 64 digits of a hash behind `0x`,
or at most 63 digits of a number below 2 ^ 64. Three more tags are known but not offered, and every
other value is invalid. The parser goes by the count of 64 alone, so it takes longer digits for a
number as well, if there are enough zeros in front.

* `Hex.Numeral` — the number that digits have for their value; `Hex.value?_eq_some_iff`.
* `Selects` — the documented grammar, `Overlong` — the digits that it leaves out.
* `parse_eq_ok_iff` — what is parsed is what one or the other tells.
* `documented_iff` — a value is read as documented unless it is overlong or cannot be shown.
-/

namespace LedgerGateway.Hex

/-! ## Numerals -/

/-- The digits, the highest first, have the number for their value in base sixteen. -/
def Numeral (ds : List Char) (n : Nat) : Prop :=
  ∃ vs, List.Forall₂ (fun c v => digitValue? c = some v) ds vs ∧ Nat.ofDigits 16 vs.reverse = n

theorem foldlM_pushDigit_eq_some_iff {ds : List Char} {m n : Nat} :
    ds.foldlM pushDigit m = some n ↔
      ∃ vs, List.Forall₂ (fun c v => digitValue? c = some v) ds vs ∧
        vs.foldl (fun n v => n * 16 + v) m = n := by
  induction ds generalizing m with
  | nil => simp [List.forall₂_nil_left_iff]
  | cons c rest ih =>
    cases value : digitValue? c with
    | none => simp [pushDigit, value, List.forall₂_cons_left_iff]
    | some v =>
      simp only [List.foldlM_cons, pushDigit, value, Option.map_some, Option.bind_eq_bind,
        Option.bind_some, ih]
      constructor
      · rintro ⟨vs, values, total⟩
        exact ⟨v :: vs, .cons value values, total⟩
      · rintro ⟨vs, values, total⟩
        obtain ⟨v', vs', own, others, rfl⟩ := List.forall₂_cons_left_iff.1 values
        obtain rfl := Option.some.inj (value.symm.trans own)
        exact ⟨vs', others, total⟩

/-- Digits are read as the number that is their value. -/
theorem value?_eq_some_iff {ds : List Char} {n : Nat} : value? ds = some n ↔ Numeral ds n := by
  have horner (vs : List Nat) :
      vs.foldl (fun n v => n * 16 + v) 0 = Nat.ofDigits 16 vs.reverse := by
    rw [Nat.ofDigits_eq_foldr, List.foldr_reverse]
    simp only [Nat.cast_id, Nat.add_comm, Nat.mul_comm]
  rw [value?, foldlM_pushDigit_eq_some_iff]
  simp only [horner]
  rfl

/-- A numeral is made of digits. -/
theorem Numeral.isDigit {ds : List Char} {n : Nat} (h : Numeral ds n) :
    ∀ c ∈ ds, isDigit c = true := by
  obtain ⟨vs, values, -⟩ := h
  intro c mem
  induction values with
  | nil => cases mem
  | @cons c' v rest vs own _ ih =>
    rcases List.mem_cons.1 mem with rfl | behind
    · rw [Hex.isDigit, own]
      rfl
    · exact ih behind

end LedgerGateway.Hex

namespace LedgerGateway.BlockKey

open Hex (Numeral Pairs)

/-! ## The grammar -/

/-- The value selects the block: by a tag, by the 64 digits of its hash, or by up to 63 digits of
its number. -/
inductive Selects : Json → BlockKey → Prop where
  | latest : Selects (.string "latest") .latest
  | pending : Selects (.string "pending") .pending
  | hash {s : String} {ds : List Char} {h : BlockHash} : s.toList = '0' :: 'x' :: ds →
      ds.length = 64 → (∀ c ∈ ds, Hex.isDigit c = true) → Pairs ds h.bytes →
      Selects (.string s) (.hash h)
  | number {s : String} {ds : List Char} {n : UInt64} : s.toList = '0' :: 'x' :: ds →
      1 ≤ ds.length → ds.length ≤ 63 → Numeral ds n.toNat → Selects (.string s) (.number n)

/-- The value is a tag of a block that the ledger does not offer. -/
inductive KnownTag : Json → Prop where
  | earliest : KnownTag (.string "earliest")
  | safe : KnownTag (.string "safe")
  | finalized : KnownTag (.string "finalized")

/-- The value has more than 64 digits behind `0x`, and yet their number is below 2 ^ 64. -/
def Overlong (raw : Json) (n : UInt64) : Prop :=
  ∃ s ds, raw = .string s ∧ s.toList = '0' :: 'x' :: ds ∧ 64 < ds.length ∧ Numeral ds n.toNat

/-! ## The parser -/

theorem ofDigits?_hash {ds : List Char} (long : ds.length = 64) {key : BlockKey} :
    ofDigits? ds = some key ↔
      (∀ c ∈ ds, Hex.isDigit c = true) ∧ ∃ h : BlockHash, Pairs ds h.bytes ∧ key = .hash h := by
  have some_ : ds.isEmpty = false := by
    cases ds with
    | nil => cases long
    | cons => rfl
  by_cases digits : ∀ c ∈ ds, Hex.isDigit c = true
  · obtain ⟨bytes, pairs, length⟩ := Hex.exists_pairs ds (by rw [long]) digits
    have count : bytes.length = 32 := by omega
    have read := Hex.readPairs_of_pairs pairs 0
    have all : ds.all Hex.isDigit = true := List.all_eq_true.2 digits
    rw [ofDigits?, some_, all, if_pos long, read]
    simp only [Bool.not_true, Bool.or_false, Bool.false_eq_true, if_false, count, dite_true,
      Option.some.injEq]
    constructor
    · rintro rfl
      exact ⟨digits, ⟨bytes, count⟩, pairs, rfl⟩
    · rintro ⟨-, ⟨bytes', count'⟩, pairs', rfl⟩
      -- Digits without blanks are the pairs of one byte string.
      have same := Except.ok.inj (read.symm.trans (Hex.readPairs_of_pairs pairs' 0))
      subst same
      rfl
  · have notAll : ds.all Hex.isDigit = false := by
      rw [← Bool.not_eq_true, List.all_eq_true]
      exact digits
    rw [ofDigits?, some_, notAll]
    simp [digits]

theorem ofDigits?_number {ds : List Char} (other : ds.length ≠ 64) {key : BlockKey} :
    ofDigits? ds = some key ↔
      ds ≠ [] ∧ ∃ n : UInt64, Numeral ds n.toNat ∧ key = .number n := by
  by_cases shape : ds.isEmpty = false ∧ ds.all Hex.isDigit = true
  · rw [ofDigits?, shape.1, shape.2, if_neg other]
    simp only [Bool.not_true, Bool.or_false, Bool.false_eq_true, if_false]
    have some_ : ds ≠ [] := List.isEmpty_eq_false_iff.1 shape.1
    cases value : Hex.value? ds with
    | none =>
      refine iff_of_false (by simp) ?_
      rintro ⟨-, n, numeral, -⟩
      rw [Hex.value?_eq_some_iff.2 numeral] at value
      cases value
    | some m =>
      have numeral := Hex.value?_eq_some_iff.1 value
      dsimp only
      constructor
      · intro h
        by_cases small : m < UInt64.size
        · have back : (UInt64.ofNat m).toNat = m := UInt64.toNat_ofNat_of_lt' small
          rw [if_pos small] at h
          exact ⟨some_, _, by rwa [back], (Option.some.inj h).symm⟩
        · rw [if_neg small] at h
          cases h
      · rintro ⟨-, n, numeral', rfl⟩
        have same := Option.some.inj (value.symm.trans (Hex.value?_eq_some_iff.2 numeral'))
        subst same
        rw [if_pos n.toNat_lt_size, UInt64.ofNat_toNat]
  · have refused : ofDigits? ds = none := by
      rw [ofDigits?, if_pos]
      rw [Bool.or_eq_true, Bool.not_eq_true']
      by_cases none : ds.isEmpty = true
      · exact .inl none
      · refine .inr (Bool.eq_false_iff.2 fun all => shape ⟨Bool.eq_false_iff.2 none, all⟩)
    rw [refused]
    refine iff_of_false (by simp) ?_
    rintro ⟨some_, n, numeral, -⟩
    exact shape ⟨List.isEmpty_eq_false_iff.2 some_, List.all_eq_true.2 numeral.isDigit⟩

/-- A text is a tag, or it has the mark `0x` in front, or it is neither. -/
theorem parseText_cases (s : String) :
    (s = "latest" ∧ parseText s = .ok .latest) ∨ (s = "pending" ∧ parseText s = .ok .pending) ∨
      (KnownTag (.string s) ∧ parseText s = .error .unsupported) ∨
      (∃ ds, s.toList = '0' :: 'x' :: ds ∧
        parseText s = (ofDigits? ds).elim (.error .invalid) .ok) ∨
      ((s ≠ "latest" ∧ s ≠ "pending" ∧ ∀ ds, s.toList ≠ '0' :: 'x' :: ds) ∧
        parseText s = .error .invalid) := by
  unfold parseText
  split
  · next latest => exact .inl ⟨latest, rfl⟩
  next notLatest =>
  split
  · next pending => exact .inr (.inl ⟨pending, rfl⟩)
  next notPending =>
  split
  · next known =>
    simp only [unsupportedTags, List.contains_eq_mem, List.mem_cons, List.not_mem_nil, or_false,
      decide_eq_true_eq] at known
    refine .inr (.inr (.inl ⟨?_, rfl⟩))
    rcases known with rfl | rfl | rfl
    · exact .earliest
    · exact .safe
    · exact .finalized
  · split
    · next ds marked => exact .inr (.inr (.inr (.inl ⟨ds, marked, rfl⟩)))
    · next unmarked =>
      exact .inr (.inr (.inr (.inr ⟨⟨notLatest, notPending, unmarked⟩, rfl⟩)))

theorem KnownTag.unmarked {s : String} (h : KnownTag (.string s)) (ds : List Char) :
    s.toList ≠ '0' :: 'x' :: ds := by
  cases h <;> simp

/-- The mark has one text behind it. -/
theorem marked_unique {s : String} {ds ds' : List Char} (h : s.toList = '0' :: 'x' :: ds)
    (h' : s.toList = '0' :: 'x' :: ds') : ds = ds' := by
  rw [h] at h'
  simpa using h'

/-- Behind the mark the digits decide. -/
theorem selects_marked_iff {s : String} {ds : List Char} (marked : s.toList = '0' :: 'x' :: ds)
    {key : BlockKey} :
    ofDigits? ds = some key ↔
      Selects (.string s) key ∨ ∃ n, Overlong (.string s) n ∧ key = .number n := by
  by_cases long : ds.length = 64
  · rw [ofDigits?_hash long]
    constructor
    · rintro ⟨digits, h, pairs, rfl⟩
      exact .inl (.hash marked long digits pairs)
    · rintro (selects | ⟨n, ⟨s', ds', text, marked', longer, -⟩, -⟩)
      · cases selects with
        | latest => simp at marked
        | pending => simp at marked
        | hash marked' _ digits pairs =>
          obtain rfl := marked_unique marked marked'
          exact ⟨digits, _, pairs, rfl⟩
        | number marked' _ short _ =>
          obtain rfl := marked_unique marked marked'
          omega
      · obtain rfl := Json.string.inj text
        obtain rfl := marked_unique marked marked'
        omega
  · rw [ofDigits?_number long]
    constructor
    · rintro ⟨some_, n, numeral, rfl⟩
      have count := List.length_pos_iff.2 some_
      rcases Nat.lt_or_ge 64 ds.length with longer | short
      · exact .inr ⟨n, ⟨s, ds, rfl, marked, longer, numeral⟩, rfl⟩
      · exact .inl (.number marked count (by omega) numeral)
    · rintro (selects | ⟨n, ⟨s', ds', text, marked', longer, numeral⟩, rfl⟩)
      · cases selects with
        | latest => simp at marked
        | pending => simp at marked
        | hash marked' long' _ _ =>
          obtain rfl := marked_unique marked marked'
          exact absurd long' long
        | number marked' count _ numeral =>
          obtain rfl := marked_unique marked marked'
          exact ⟨List.length_pos_iff.1 count, _, numeral, rfl⟩
      · obtain rfl := Json.string.inj text
        obtain rfl := marked_unique marked marked'
        exact ⟨List.length_pos_iff.1 (by omega), n, numeral, rfl⟩

/-- Without the mark only the two tags select. -/
theorem selects_unmarked_iff {s : String} (unmarked : ∀ ds, s.toList ≠ '0' :: 'x' :: ds)
    {key : BlockKey} :
    (Selects (.string s) key ∨ ∃ n, Overlong (.string s) n ∧ key = .number n) ↔
      (s = "latest" ∧ key = .latest) ∨ (s = "pending" ∧ key = .pending) := by
  constructor
  · rintro (selects | ⟨n, ⟨s', ds, text, marked, -⟩, -⟩)
    · cases selects with
      | latest => exact .inl ⟨rfl, rfl⟩
      | pending => exact .inr ⟨rfl, rfl⟩
      | hash marked => exact absurd marked (unmarked _)
      | number marked => exact absurd marked (unmarked _)
    · obtain rfl := Json.string.inj text
      exact absurd marked (unmarked _)
  · rintro (⟨rfl, rfl⟩ | ⟨rfl, rfl⟩)
    · exact .inl .latest
    · exact .inl .pending

variable {depth : Nat}

/-- The wording of a fault about a text can always be made. -/
theorem parse_string (depth : Nat) (s : String) :
    parse depth (.string s) =
      (parseText s).mapError fun kind => .fault ⟨kind, .string s⟩ := rfl

theorem parse_string_eq_ok_iff {s : String} {key : BlockKey} :
    parse depth (.string s) = .ok key ↔ parseText s = .ok key := by
  rw [parse_string]
  cases parseText s <;> simp [Except.mapError]

theorem parse_string_eq_fault_iff {s : String} {kind : FaultKind} :
    parse depth (.string s) = .error (.fault ⟨kind, .string s⟩) ↔ parseText s = .error kind := by
  rw [parse_string]
  cases parseText s <;> simp [Except.mapError]

/-- The parser selects what the grammar tells, and the number of an overlong text. -/
theorem parseText_eq_ok_iff {s : String} {key : BlockKey} :
    parseText s = .ok key ↔
      Selects (.string s) key ∨ ∃ n, Overlong (.string s) n ∧ key = .number n := by
  obtain ⟨rfl, read⟩ | ⟨rfl, read⟩ | ⟨known, read⟩ | ⟨ds, marked, read⟩ |
      ⟨⟨notLatest, notPending, unmarked⟩, read⟩ := parseText_cases s
  · rw [read, selects_unmarked_iff (by simp)]
    simp [eq_comm]
  · rw [read, selects_unmarked_iff (by simp)]
    simp [eq_comm]
  · rw [read, selects_unmarked_iff known.unmarked]
    cases known <;> simp
  · rw [read, ← selects_marked_iff marked]
    cases ofDigits? ds <;> simp
  · rw [read, selects_unmarked_iff unmarked]
    simp [notLatest, notPending]

/-- So it does for values, of which only texts select anything. -/
theorem parse_eq_ok_iff {raw : Json} {key : BlockKey} :
    parse depth raw = .ok key ↔ Selects raw key ∨ ∃ n, Overlong raw n ∧ key = .number n := by
  cases raw with
  | string s => rw [parse_string_eq_ok_iff, parseText_eq_ok_iff]
  | _ =>
    refine iff_of_false (by simp [parse]) ?_
    rintro (selects | ⟨n, ⟨s, ds, text, -⟩, -⟩)
    · cases selects
    · cases text

theorem parseText_latest : parseText "latest" = .ok .latest := rfl

theorem parseText_pending : parseText "pending" = .ok .pending := rfl

/-- What is known and not offered is told apart from what is invalid. -/
theorem parseText_unsupported_iff {s : String} :
    parseText s = .error .unsupported ↔ KnownTag (.string s) := by
  constructor
  · intro h
    obtain ⟨-, read⟩ | ⟨-, read⟩ | ⟨known, -⟩ | ⟨ds, -, read⟩ | ⟨-, read⟩ := parseText_cases s
    · simp [read] at h
    · simp [read] at h
    · exact known
    · cases digits : ofDigits? ds <;> simp [read, digits] at h
    · simp [read] at h
  · intro known
    cases known <;> rfl

theorem refuse_eq_fault_iff {kind kind' : FaultKind} {raw : Json} :
    refuse depth kind raw = .fault ⟨kind', raw⟩ ↔
      kind = kind' ∧ (Datum.ofJson raw).HasLiteral depth := by
  rw [← Datum.literalFault?_eq_none_iff, refuse]
  cases (Datum.ofJson raw).literalFault? depth <;> simp

theorem parse_unsupported_iff {raw : Json} :
    parse depth raw = .error (.fault ⟨.unsupported, raw⟩) ↔ KnownTag raw := by
  cases raw with
  | string s => rw [parse_string_eq_fault_iff, parseText_unsupported_iff]
  | _ =>
    refine iff_of_false (by simp [parse, refuse_eq_fault_iff]) ?_
    rintro ⟨⟩

/-- A refusal names the value that it is about, so there are two of them for each value; a third if
the value cannot be shown. -/
theorem parse_cases (depth : Nat) (raw : Json) :
    (∃ key, parse depth raw = .ok key) ∨
      parse depth raw = .error (.fault ⟨.unsupported, raw⟩) ∨
      parse depth raw = .error (refuse depth .invalid raw) := by
  cases raw with
  | string s =>
    rw [parse_string]
    rcases parseText s with (_ | _) | key
    · exact .inr (.inr rfl)
    · exact .inr (.inl rfl)
    · exact .inl ⟨key, rfl⟩
  | _ => exact .inr (.inr rfl)

/-! ## As documented -/

/-- A value is read by the documented grammar: what selects a block gives that block, a tag that is
known is not supported, and everything else is invalid. -/
structure Documented (raw : Json) (result : Except Refusal BlockKey) : Prop where
  selected : ∀ key, result = .ok key ↔ Selects raw key
  unsupported : result = .error (.fault ⟨.unsupported, raw⟩) ↔ KnownTag raw
  invalid : result = .error (.fault ⟨.invalid, raw⟩) ↔
    ¬ KnownTag raw ∧ ∀ key, ¬ Selects raw key

/-- An overlong value selects nothing. -/
theorem Overlong.not_selects {raw : Json} {n : UInt64} (h : Overlong raw n) (key : BlockKey) :
    ¬ Selects raw key := by
  obtain ⟨s, ds, rfl, marked, longer, -⟩ := h
  intro selects
  cases selects with
  | latest => simp at marked
  | pending => simp at marked
  | hash marked' long =>
    obtain rfl := marked_unique marked marked'
    omega
  | number marked' _ short =>
    obtain rfl := marked_unique marked marked'
    omega

/-- What is no text is neither a tag that is known nor selects a block. -/
theorem not_text {raw : Json} (h : ∀ s, raw ≠ .string s) :
    ¬ KnownTag raw ∧ (∀ key, ¬ Selects raw key) ∧ ¬ ∃ n, Overlong raw n := by
  refine ⟨?_, fun key => ?_, ?_⟩
  · rintro ⟨⟩ <;> exact h _ rfl
  · rintro ⟨⟩ <;> exact h _ rfl
  · rintro ⟨n, s, ds, text, -⟩
    exact h s text

/-- **Which values are read as documented.** All of them but the overlong ones, which are read as
numbers though they have more digits than a hash, and those that cannot be shown in the wording of
the fault. -/
theorem documented_iff (depth : Nat) (raw : Json) :
    Documented raw (parse depth raw) ↔
      (¬ ∃ n, Overlong raw n) ∧ (Datum.ofJson raw).HasLiteral depth := by
  constructor
  · intro documented
    constructor
    · rintro ⟨n, overlong⟩
      have read : parse depth raw = .ok (.number n) := parse_eq_ok_iff.2 (.inr ⟨n, overlong, rfl⟩)
      exact overlong.not_selects _ ((documented.selected _).1 read)
    · by_cases text : ∃ s, raw = .string s
      · obtain ⟨s, rfl⟩ := text
        exact .string
      · -- It is no text, so it has to be invalid, and the wording of that shows it.
        have other : ∀ s, raw ≠ .string s := fun s same => text ⟨s, same⟩
        obtain ⟨unknown, selectsNone, -⟩ := not_text other
        have invalid := documented.invalid.2 ⟨unknown, selectsNone⟩
        have refused : parse depth raw = .error (refuse depth .invalid raw) := by
          cases raw with
          | string s => exact absurd rfl (other s)
          | _ => rfl
        exact (refuse_eq_fault_iff.1 (Except.error.inj (refused.symm.trans invalid))).2
  · rintro ⟨regular, shown⟩
    have selected (key : BlockKey) : parse depth raw = .ok key ↔ Selects raw key := by
      rw [parse_eq_ok_iff]
      refine or_iff_left ?_
      rintro ⟨n, overlong, -⟩
      exact regular ⟨n, overlong⟩
    have wording : refuse depth .invalid raw = .fault ⟨.invalid, raw⟩ :=
      refuse_eq_fault_iff.2 ⟨rfl, shown⟩
    refine ⟨selected, parse_unsupported_iff, ?_⟩
    simp only [← selected, ← @parse_unsupported_iff depth]
    obtain ⟨key, read⟩ | read | read := parse_cases depth raw <;> simp [read, wording]

/-- The digit one behind 64 zeros. -/
def paddedOne : List Char := List.replicate 64 '0' ++ ['1']

/-- It is one digit longer than a hash, and is read as the number 1. -/
theorem not_documented_padded_one :
    ¬ Documented (.string (Hex.marked (String.ofList paddedOne)))
      (parse 900 (.string (Hex.marked (String.ofList paddedOne)))) := by
  have numeral : Numeral paddedOne (1 : UInt64).toNat := Hex.value?_eq_some_iff.1 (by decide)
  have overlong : Overlong (.string (Hex.marked (String.ofList paddedOne))) 1 :=
    ⟨_, _, rfl, Hex.toList_marked _, by decide, numeral⟩
  intro documented
  exact overlong.not_selects _
    ((documented.selected _).1 (parse_eq_ok_iff.2 (.inr ⟨1, overlong, rfl⟩)))

end LedgerGateway.BlockKey
