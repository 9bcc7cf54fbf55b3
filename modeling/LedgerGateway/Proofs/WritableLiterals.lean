import LedgerGateway.Datum.Basic

/-!
# Which literals can be written

The literal of a datum is written unless an integer in it has too many digits or its data lie too
deep inside each other. Lists and tables that are empty, and texts and numbers, take no depth; the
offset of a moment does.

* `HasLiteral` — the two limits for a whole datum.
* `literalFault?_eq_none_iff` — a literal is written exactly if the datum is within them.
-/

namespace LedgerGateway.Datum

open Decimal (digitLimit digitCount)

/-- The literal of the datum can be written, with room for data down to a depth. -/
inductive HasLiteral : Nat → Datum → Prop where
  | null {depth} : HasLiteral depth .null
  | bool {depth b} : HasLiteral depth (.bool b)
  | int {depth n} : digitCount n.natAbs ≤ digitLimit → HasLiteral depth (.int n)
  | float {depth x} : HasLiteral depth (.float x)
  | string {depth s} : HasLiteral depth (.string s)
  | moment {depth m} : m.literalDepth ≤ depth → HasLiteral depth (.moment m)
  | emptyList {depth} : HasLiteral depth (.list [])
  | list {depth vs} : (∀ v ∈ vs, HasLiteral depth v) → HasLiteral (depth + 1) (.list vs)
  | emptyTuple {depth} : HasLiteral depth (.tuple [])
  | tuple {depth vs} : (∀ v ∈ vs, HasLiteral depth v) → HasLiteral (depth + 1) (.tuple vs)
  | emptyTable {depth} : HasLiteral depth (.table [])
  | table {depth es} : (∀ e ∈ es, HasLiteral depth e.2) → HasLiteral (depth + 1) (.table es)

theorem HasLiteral.mono {d : Datum} {depth depth' : Nat} (h : d.HasLiteral depth)
    (le : depth ≤ depth') : d.HasLiteral depth' := by
  induction h generalizing depth' with
  | null => exact .null
  | bool => exact .bool
  | int few => exact .int few
  | float => exact .float
  | string => exact .string
  | moment room => exact .moment (Nat.le_trans room le)
  | emptyList => exact .emptyList
  | emptyTuple => exact .emptyTuple
  | emptyTable => exact .emptyTable
  | list _ ih =>
    obtain ⟨k, rfl⟩ := Nat.exists_eq_add_of_le' (Nat.le_of_add_left_le le)
    exact .list fun v mem => ih v mem (by omega)
  | tuple _ ih =>
    obtain ⟨k, rfl⟩ := Nat.exists_eq_add_of_le' (Nat.le_of_add_left_le le)
    exact .tuple fun v mem => ih v mem (by omega)
  | table _ ih =>
    obtain ⟨k, rfl⟩ := Nat.exists_eq_add_of_le' (Nat.le_of_add_left_le le)
    exact .table fun e mem => ih e mem (by omega)

section Inversions

variable {depth : Nat}

theorem hasLiteral_int_iff {n : Int} :
    (Datum.int n).HasLiteral depth ↔ digitCount n.natAbs ≤ digitLimit := by
  refine ⟨?_, .int⟩
  rintro (_ | _ | few)
  exact few

theorem hasLiteral_moment_iff {m : Moment} :
    (Datum.moment m).HasLiteral depth ↔ m.literalDepth ≤ depth := by
  refine ⟨?_, .moment⟩
  rintro (_ | _ | _ | _ | _ | room)
  exact room

theorem not_hasLiteral_list {v : Datum} {rest : List Datum} :
    ¬ (Datum.list (v :: rest)).HasLiteral 0 := by
  intro h
  cases h

theorem not_hasLiteral_tuple {v : Datum} {rest : List Datum} :
    ¬ (Datum.tuple (v :: rest)).HasLiteral 0 := by
  intro h
  cases h

theorem not_hasLiteral_table {e : String × Datum} {rest : List (String × Datum)} :
    ¬ (Datum.table (e :: rest)).HasLiteral 0 := by
  intro h
  cases h

theorem hasLiteral_list_iff {vs : List Datum} :
    (Datum.list vs).HasLiteral (depth + 1) ↔ ∀ v ∈ vs, v.HasLiteral depth := by
  refine ⟨fun h => ?_, .list⟩
  cases h with
  | emptyList => simp
  | list all => exact all

theorem hasLiteral_tuple_iff {vs : List Datum} :
    (Datum.tuple vs).HasLiteral (depth + 1) ↔ ∀ v ∈ vs, v.HasLiteral depth := by
  refine ⟨fun h => ?_, .tuple⟩
  cases h with
  | emptyTuple => simp
  | tuple all => exact all

theorem hasLiteral_table_iff {es : List (String × Datum)} :
    (Datum.table es).HasLiteral (depth + 1) ↔ ∀ e ∈ es, e.2.HasLiteral depth := by
  refine ⟨fun h => ?_, .table⟩
  cases h with
  | emptyTable => simp
  | table all => exact all

end Inversions

mutual

/-- A literal is written exactly if the datum is within the limits. -/
theorem literalFault?_eq_none_iff {depth : Nat} {d : Datum} :
    d.literalFault? depth = none ↔ d.HasLiteral depth := by
  cases d with
  | null => exact iff_of_true rfl .null
  | bool => exact iff_of_true rfl .bool
  | float => exact iff_of_true rfl .float
  | string => exact iff_of_true rfl .string
  | int n =>
    rw [literalFault?, hasLiteral_int_iff, ← Decimal.isShort_iff]
    split <;> simp [*]
  | moment m =>
    rw [literalFault?, hasLiteral_moment_iff]
    split <;> simp [*]
  | list vs =>
    match vs, depth with
    | [], _ => exact iff_of_true (by simp [literalFault?]) .emptyList
    | _ :: _, 0 => exact iff_of_false (by simp [literalFault?]) not_hasLiteral_list
    | v :: rest, depth + 1 =>
      rw [literalFault?, literalsFault?_eq_none_iff, hasLiteral_list_iff]
      simp
  | tuple vs =>
    match vs, depth with
    | [], _ => exact iff_of_true (by simp [literalFault?]) .emptyTuple
    | _ :: _, 0 => exact iff_of_false (by simp [literalFault?]) not_hasLiteral_tuple
    | v :: rest, depth + 1 =>
      rw [literalFault?, literalsFault?_eq_none_iff, hasLiteral_tuple_iff]
      simp
  | table es =>
    match es, depth with
    | [], _ => exact iff_of_true (by simp [literalFault?]) .emptyTable
    | _ :: _, 0 => exact iff_of_false (by simp [literalFault?]) not_hasLiteral_table
    | e :: rest, depth + 1 =>
      rw [literalFault?, entryLiteralsFault?_eq_none_iff, hasLiteral_table_iff]
      simp

theorem literalsFault?_eq_none_iff {depth : Nat} {vs : List Datum} :
    literalsFault? depth vs = none ↔ ∀ v ∈ vs, v.HasLiteral depth := by
  cases vs with
  | nil => simp [literalsFault?]
  | cons v rest =>
    rw [List.forall_mem_cons, ← literalFault?_eq_none_iff, ← literalsFault?_eq_none_iff,
      literalsFault?]
    cases v.literalFault? depth <;> simp

theorem entryLiteralsFault?_eq_none_iff {depth : Nat} {es : List (String × Datum)} :
    entryLiteralsFault? depth es = none ↔ ∀ e ∈ es, e.2.HasLiteral depth := by
  cases es with
  | nil => simp [entryLiteralsFault?]
  | cons e rest =>
    rw [List.forall_mem_cons, ← literalFault?_eq_none_iff, ← entryLiteralsFault?_eq_none_iff,
      entryLiteralsFault?]
    cases e.2.literalFault? depth <;> simp

end

end LedgerGateway.Datum
