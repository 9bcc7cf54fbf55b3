import LedgerGateway.Proofs.NumberTexts

/-!
# Which values can be written

A value is written unless an integer in it has too many digits or its values lie too deep inside
each other. The texts of the grammar keep the same two limits, so a value that was read can be
written as well.

* `Fits` — the limits on integers and on depth, for a whole value.
* `fault?_eq_none_iff` — a value is written exactly if it is within them.
* `WholeText.fits` — what a text spells is within the limits of the text.
-/

namespace LedgerGateway.Json

open Decimal (Binary64 digitLimit)

/-- The integers in the value have at most so many digits, and arrays and objects lie inside each
other down to a depth. -/
inductive Fits (digits : Nat) : Nat → Json → Prop where
  | null {depth} : Fits digits depth .null
  | bool {depth b} : Fits digits depth (.bool b)
  | int {depth n} : (Decimal.digits n.natAbs).length ≤ digits → Fits digits depth (.int n)
  | float {depth x} : Fits digits depth (.float x)
  | string {depth s} : Fits digits depth (.string s)
  | array {depth vs} : (∀ v ∈ vs, Fits digits depth v) → Fits digits (depth + 1) (.array vs)
  | object {depth ms} : (∀ m ∈ ms, Fits digits depth m.2) → Fits digits (depth + 1) (.object ms)

theorem Fits.mono {v : Json} {digits depth digits' depth' : Nat} (h : v.Fits digits depth)
    (hdigits : digits ≤ digits') (hdepth : depth ≤ depth') : v.Fits digits' depth' := by
  induction h generalizing depth' with
  | null => exact .null
  | bool => exact .bool
  | int few => exact .int (few.trans hdigits)
  | float => exact .float
  | string => exact .string
  | array _ ih =>
    obtain ⟨d, rfl⟩ := Nat.exists_eq_add_of_le' (Nat.le_of_add_left_le hdepth)
    exact .array fun v mem => ih v mem (by omega)
  | object _ ih =>
    obtain ⟨d, rfl⟩ := Nat.exists_eq_add_of_le' (Nat.le_of_add_left_le hdepth)
    exact .object fun m mem => ih m mem (by omega)

theorem fits_array_iff {digits depth : Nat} {vs : List Json} :
    (Json.array vs).Fits digits (depth + 1) ↔ ∀ v ∈ vs, v.Fits digits depth := by
  constructor
  · rintro (_ | _ | _ | _ | _ | h)
    exact h
  · exact .array

theorem fits_object_iff {digits depth : Nat} {ms : List (String × Json)} :
    (Json.object ms).Fits digits (depth + 1) ↔ ∀ m ∈ ms, m.2.Fits digits depth := by
  constructor
  · rintro (_ | _ | _ | _ | _ | _ | h)
    exact h
  · exact .object

/-! ## Writing -/

theorem fault?_int_eq_none_iff {depth : Nat} {n : Int} :
    (Json.int n).fault? depth = none ↔ (Decimal.digits n.natAbs).length ≤ digitLimit := by
  show _ ↔ Decimal.digitCount n.natAbs ≤ digitLimit
  rw [fault?, ← Decimal.isShort_iff]
  split <;> simp [*]

mutual

/-- A value is written exactly if it is within the limits. -/
theorem fault?_eq_none_iff {depth : Nat} {v : Json} :
    v.fault? depth = none ↔ v.Fits digitLimit depth := by
  cases v with
  | null => exact iff_of_true rfl .null
  | bool => exact iff_of_true rfl .bool
  | float => exact iff_of_true rfl .float
  | string => exact iff_of_true rfl .string
  | int n =>
    rw [fault?_int_eq_none_iff]
    refine ⟨.int, ?_⟩
    rintro (_ | _ | few)
    exact few
  | array vs =>
    cases depth with
    | zero => exact iff_of_false (by simp [fault?]) nofun
    | succ depth => rw [fault?, itemsFault?_eq_none_iff, fits_array_iff]
  | object ms =>
    cases depth with
    | zero => exact iff_of_false (by simp [fault?]) nofun
    | succ depth => rw [fault?, membersFault?_eq_none_iff, fits_object_iff]

theorem itemsFault?_eq_none_iff {depth : Nat} {vs : List Json} :
    itemsFault? depth vs = none ↔ ∀ v ∈ vs, v.Fits digitLimit depth := by
  cases vs with
  | nil => simp [itemsFault?]
  | cons v rest =>
    rw [List.forall_mem_cons, ← fault?_eq_none_iff, ← itemsFault?_eq_none_iff, itemsFault?]
    cases v.fault? depth <;> simp

theorem membersFault?_eq_none_iff {depth : Nat} {ms : List (String × Json)} :
    membersFault? depth ms = none ↔ ∀ m ∈ ms, m.2.Fits digitLimit depth := by
  cases ms with
  | nil => simp [membersFault?]
  | cons m rest =>
    rw [List.forall_mem_cons, ← fault?_eq_none_iff, ← membersFault?_eq_none_iff, membersFault?]
    cases m.2.fault? depth <;> simp

end

theorem checked_of_fits {depth : Nat} {v : Json} (h : v.Fits digitLimit depth) :
    v.checked depth = .ok v := by
  rw [checked, fault?_eq_none_iff.2 h]

theorem checked_eq_ok_iff {depth : Nat} {v w : Json} :
    v.checked depth = .ok w ↔ v.Fits digitLimit depth ∧ w = v := by
  rw [← fault?_eq_none_iff, checked]
  cases v.fault? depth <;> simp [eq_comm]

/-! ## Nested arrays -/

/-- Null inside so many arrays. -/
def nested : Nat → Json
  | 0 => .null
  | depth + 1 => .array [nested depth]

theorem fits_nested_iff {digits depth n : Nat} : (nested n).Fits digits depth ↔ n ≤ depth := by
  induction n generalizing depth with
  | zero => exact iff_of_true .null (Nat.zero_le _)
  | succ n ih =>
    cases depth with
    | zero => exact iff_of_false nofun (by omega)
    | succ depth =>
      rw [nested, fits_array_iff, List.forall_mem_singleton, ih]
      omega

/-! ## Reading -/

theorem mem_put {table : List (String × Json)} {key : String} {v : Json} {m : String × Json}
    (h : m ∈ Association.put table key v) : m ∈ table ∨ m.2 = v := by
  induction table with
  | nil =>
    obtain rfl := List.mem_singleton.1 h
    exact .inr rfl
  | cons head rest ih =>
    obtain ⟨k, old⟩ := head
    rw [Association.put] at h
    split at h
    · rcases List.mem_cons.1 h with rfl | behind
      · exact .inr rfl
      · exact .inl (by simp [behind])
    · rcases List.mem_cons.1 h with rfl | behind
      · exact .inl (by simp)
      · exact (ih behind).imp (fun mem => by simp [mem]) id

/-- Members that are put one by one leave some of the values. -/
theorem exists_of_mem_ofPairs {pairs : List (String × Json)} {m : String × Json}
    (h : m ∈ Association.ofPairs pairs) : ∃ p ∈ pairs, m.2 = p.2 := by
  -- What is put stands behind what is there already, so the claim is made for any table.
  have step : ∀ table : List (String × Json),
      m ∈ pairs.foldl (fun t p => Association.put t p.1 p.2) table →
        m ∈ table ∨ ∃ p ∈ pairs, m.2 = p.2 := by
    clear h
    induction pairs with
    | nil => exact fun table mem => .inl mem
    | cons p rest ih =>
      intro table mem
      rcases ih _ mem with there | ⟨q, behind, eq⟩
      · rcases mem_put there with there | eq
        · exact .inl there
        · exact .inr ⟨p, by simp, eq⟩
      · exact .inr ⟨q, by simp [behind], eq⟩
  exact (step [] h).resolve_left (by simp)

namespace Numeral

theorem ofDigits_lt {ds : List Char} (h : Digits ds) : ofDigits ds < 10 ^ ds.length := by
  induction ds using List.reverseRecOn with
  | nil => simp [ofDigits]
  | append_singleton ds c ih =>
    have front := ih fun d mem => h d (by simp [mem])
    have last : c.toNat - 48 < 10 := by
      have digit := h c (by simp)
      simp only [Char.isDigit, Bool.and_eq_true, decide_eq_true_eq, ge_iff_le, UInt32.le_iff_toNat_le]
        at digit
      have high : c.toNat ≤ 57 := digit.2
      omega
    have value : ofDigits [c] = c.toNat - 48 := by simp [ofDigits]
    rw [ofDigits_append, value, List.length_append, List.length_singleton, pow_succ]
    omega

/-- The number of a numeral has no more digits than the numeral. -/
theorem fits_number {n : Numeral} {digits depth : Nat} (regular : n.Regular)
    (few : n.isInteger = true → n.count ≤ digits) : n.number.Fits digits depth := by
  rw [number]
  split
  · next integer =>
    refine .int ((Nat.length_toDigits_le_iff (by decide) ?_).2 ?_)
    · have := few integer
      rw [count] at this
      omega
    · have abs : (Binary64.signed n.negative (ofDigits (n.first :: n.more))).natAbs =
          ofDigits (n.first :: n.more) := by
        rw [Binary64.signed]
        split <;> omega
      have all : Digits (n.first :: n.more) := by
        intro c mem
        rcases List.mem_cons.1 mem with rfl | behind
        · exact regular.first
        · exact regular.more c behind
      rw [abs]
      exact (ofDigits_lt all).trans_le (Nat.pow_le_pow_right (by decide) (few integer))
  · exact .float

end Numeral

/-- The limits for each part of a text. -/
def Node.Fits (digits depth : Nat) : Node → Prop
  | .value v => v.Fits digits depth
  | .items vs => ∀ v ∈ vs, v.Fits digits depth
  | .members ms => ∀ m ∈ ms, m.2.Fits digits depth

variable {W : List (List Char × Json)} {digits depth : Nat}

theorem Spelt.fits (known : ∀ w ∈ W, w ∈ words) {node : Node} {s : List Char}
    (h : Spelt W digits depth node s) : node.Fits digits depth := by
  induction h with
  | word mem =>
    have mem := known _ mem
    simp only [words, List.mem_cons, Prod.mk.injEq, List.not_mem_nil, or_false] at mem
    obtain ⟨-, rfl⟩ | ⟨-, rfl⟩ | ⟨-, rfl⟩ | ⟨-, rfl⟩ | ⟨-, rfl⟩ | ⟨-, rfl⟩ := mem
    · exact .null
    · exact .bool
    · exact .bool
    all_goals exact .float
  | number spells few => exact Numeral.fits_number spells.1 few
  | string => exact .string
  | emptyArray => exact .array fun v mem => absurd mem (by simp)
  | array _ _ ih => exact .array ih
  | emptyObject => exact .object fun m mem => absurd mem (by simp)
  | object _ _ ih =>
    refine .object fun m mem => ?_
    obtain ⟨p, there, eq⟩ := exists_of_mem_ofPairs mem
    exact eq ▸ ih p there
  | lastItem _ _ ih =>
    intro v mem
    rw [List.mem_singleton.1 mem]
    exact ih
  | item _ _ _ ih ih' =>
    intro v mem
    rcases List.mem_cons.1 mem with rfl | behind
    · exact ih
    · exact ih' v behind
  | lastMember _ _ _ ih =>
    intro m mem
    rw [List.mem_singleton.1 mem]
    exact ih
  | member _ _ _ _ ih ih' =>
    intro m mem
    rcases List.mem_cons.1 mem with rfl | behind
    · exact ih
    · exact ih' m behind

/-- What a text spells is within the limits of the text. -/
theorem WholeText.fits (known : ∀ w ∈ W, w ∈ words) {v : Json} {text : List Char}
    (h : WholeText W digits depth v text) : v.Fits digits depth := by
  obtain ⟨g, s, g', -, spelt, -⟩ := h
  exact spelt.fits known

end LedgerGateway.Json
