import LedgerGateway.Config.Sections
import LedgerGateway.Proofs.Outcomes
import LedgerGateway.Proofs.Rounding
import LedgerGateway.Proofs.WritableLiterals

/-!
# What a port may be written as

The port of a configuration is written as an integer, a truth value, a floating point number, whose
fraction does not count, or a text. The integer that it stands for has to lie between 1 and 65535.
What is wrong with it is reported as a fault of the configuration, with two exceptions: an infinity,
and a value that the report cannot show, for an integer in it that is too long or for the depth of
what it holds.

* `Denotes` — the integer that a datum stands for, and `readPort_eq_ok_iff`.
* `Unreportable` — the data that break the reading off, and `reported_readPort_iff`.
-/

namespace LedgerGateway.Decimal

/-- Digits spell a number below the power of ten of their count. -/
theorem ofDigits_lt_pow {vs : List Nat} (h : ∀ v ∈ vs, v < 10) : ofDigits vs < 10 ^ vs.length := by
  -- The value grows by the digits from the left, so the last digit is split off.
  induction vs using List.reverseRecOn with
  | nil => simp [ofDigits]
  | append_singleton front v ih =>
    have front_lt := ih fun w mem => h w (List.mem_append_left _ mem)
    have v_lt := h v (by simp)
    have value : ofDigits (front ++ [v]) = ofDigits front * 10 + v := by
      simp [ofDigits, List.foldl_append]
    rw [value, List.length_append, List.length_singleton, pow_succ]
    omega

theorem readDigits_lt {afterDigit : Bool} {cs : List Char} {vs : List Nat}
    (h : readDigits afterDigit cs = some vs) : ∀ v ∈ vs, v < 10 := by
  induction cs generalizing afterDigit vs with
  | nil =>
    rw [readDigits] at h
    split at h
    · obtain rfl := Option.some.inj h
      simp
    · cases h
  | cons c rest ih =>
    rw [readDigits] at h
    split at h
    · split at h
      · exact ih h
      · cases h
    · split at h
      · next v own =>
        obtain ⟨others, read, rfl⟩ := Option.map_eq_some_iff.1 h
        intro w mem
        rcases List.mem_cons.1 mem with rfl | behind
        · exact Text.digitValue?_lt own
        · exact ih read w behind
      · cases h

/-- An integer that a text spells can be shown. -/
theorem digitCount_readInt_le {s : String} {n : Int} (h : readInt s = some n) :
    digitCount n.natAbs ≤ digitLimit := by
  rw [readInt] at h
  dsimp only at h
  split at h
  · cases h
  next vs read =>
  split at h
  · cases h
  next few =>
  have bound : ofDigits vs < 10 ^ digitLimit :=
    lt_of_lt_of_le (ofDigits_lt_pow (readDigits_lt read))
      (Nat.pow_le_pow_right (by decide) (Nat.le_of_not_lt few))
  have size : n.natAbs = ofDigits vs := by
    obtain rfl := Option.some.inj h
    split
    · rw [Int.natAbs_neg, Int.natAbs_natCast]
    · rw [Int.natAbs_natCast]
  rw [size]
  exact (Nat.length_toDigits_le_iff (by decide) (by decide)).2 bound

end LedgerGateway.Decimal

namespace LedgerGateway.Config

open Decimal (digitCount digitLimit)

/-- Whatever is wrong is reported as a fault of the configuration. -/
def Reported {α : Type} (r : Except Fault α) : Prop := ∀ fault, r = .error fault → fault.isReported

section Reported

variable {α β : Type}

@[simp] theorem reported_ok (a : α) : Reported (.ok a : Except Fault α) := by
  intro fault h
  cases h

@[simp] theorem reported_error (fault : Fault) :
    Reported (.error fault : Except Fault α) ↔ fault.isReported := by
  constructor
  · intro h
    exact h fault rfl
  · intro h fault' same
    rwa [← Except.error.inj same]

theorem reported_map {r : Except Fault α} {f : α → β} : Reported (r.map f) ↔ Reported r := by
  cases r <;> simp [Except.map]

/-- Of two steps both have to be reported, the second one if it is taken. -/
theorem reported_bind {r : Except Fault α} {f : α → Except Fault β} :
    Reported (r >>= f) ↔ Reported r ∧ ∀ a, r = .ok a → Reported (f a) := by
  cases r with
  | error fault => simp [bind, Except.bind]
  | ok a => simp [bind, Except.bind]

end Reported

/-! ## The integer -/

/-- The datum stands for the integer. -/
inductive Denotes : Datum → Int → Prop where
  | int (n : Int) : Denotes (.int n) n
  | yes : Denotes (.bool true) 1
  | no : Denotes (.bool false) 0
  | float {x : Decimal.Binary64} {n : Int} : x.truncate? = some n → Denotes (.float x) n
  | text {s : String} {n : Int} : Decimal.readInt s = some n → Denotes (.string s) n

/-- A datum stands for one integer at most. -/
theorem Denotes.unique {v : Datum} {m n : Int} (h : Denotes v m) (h' : Denotes v n) : m = n := by
  cases h with
  | int =>
    cases h'
    rfl
  | yes =>
    cases h'
    rfl
  | no =>
    cases h'
    rfl
  | float own =>
    cases h' with
    | float own' => exact Option.some.inj (own.symm.trans own')
  | text own =>
    cases h' with
    | text own' => exact Option.some.inj (own.symm.trans own')

theorem Denotes.portInteger_eq {v : Datum} {n : Int} (h : Denotes v n) (depth : Nat)
    (source : String) : portInteger depth source v = .ok n := by
  cases h with
  | int => rfl
  | yes => rfl
  | no => rfl
  | float own => simp only [portInteger, own]
  | text own => simp only [portInteger, own]

/-- A datum that stands for no integer is infinite, or it is shown in the report. -/
theorem portInteger_eq_error {v : Datum} (none : ∀ n, ¬ Denotes v n) (depth : Nat)
    (source : String) :
    ((∃ negative, v = .float (.infinite negative)) ∧
        portInteger depth source v = .error .infinitePort) ∨
      ((∀ negative, v ≠ .float (.infinite negative)) ∧
        portInteger depth source v = .error (noInteger depth source v)) := by
  cases v with
  | int n => exact absurd (.int n) (none n)
  | bool b =>
    cases b
    · exact absurd .no (none 0)
    · exact absurd .yes (none 1)
  | float x =>
    cases x with
    | finite negative mantissa exponent => exact absurd (.float rfl) (none _)
    | infinite negative => exact .inl ⟨⟨negative, rfl⟩, rfl⟩
    | nan => exact .inr ⟨by simp, rfl⟩
  | string s =>
    cases read : Decimal.readInt s with
    | some n => exact absurd (.text read) (none n)
    | none => exact .inr ⟨by simp, by simp only [portInteger, read]⟩
  | null => exact .inr ⟨by simp, rfl⟩
  | moment m => exact .inr ⟨by simp, rfl⟩
  | list items => exact .inr ⟨by simp, rfl⟩
  | tuple items => exact .inr ⟨by simp, rfl⟩
  | table entries => exact .inr ⟨by simp, rfl⟩

/-! ## The port -/

/-- The datum stands for a port. -/
def IsPort (v : Datum) (n : Int) : Prop := Denotes v n ∧ 1 ≤ n ∧ n ≤ 65535

theorem Denotes.readPort_eq {v : Datum} {n : Int} (h : Denotes v n) (depth : Nat)
    (source : String) :
    readPort depth source v =
      if 1 ≤ n ∧ n ≤ 65535 then .ok n
      else if digitCount n.natAbs ≤ digitLimit then .error (.portOutOfRange source n)
      else .error (.unwritable .tooManyDigits) := by
  have range : (0 < n ∧ n < 65536) ↔ 1 ≤ n ∧ n ≤ 65535 := by omega
  simp only [readPort, h.portInteger_eq depth source, range, Decimal.isShort_iff]

theorem readPort_eq_error {v : Datum} (none : ∀ n, ¬ Denotes v n) (depth : Nat)
    (source : String) : ∃ fault, readPort depth source v = .error fault := by
  obtain ⟨-, refused⟩ | ⟨-, refused⟩ := portInteger_eq_error none depth source
  · exact ⟨_, by rw [readPort, refused]⟩
  · exact ⟨_, by rw [readPort, refused]⟩

/-- **Which ports are read.** The integers from 1 to 65535 that data stand for. -/
theorem readPort_eq_ok_iff {depth : Nat} {source : String} {v : Datum} {n : Int} :
    readPort depth source v = .ok n ↔ IsPort v n := by
  by_cases some_ : ∃ m, Denotes v m
  · obtain ⟨m, own⟩ := some_
    rw [own.readPort_eq depth source]
    constructor
    · intro h
      split at h
      · next range =>
        obtain rfl := Except.ok.inj h
        exact ⟨own, range⟩
      · split at h <;> cases h
    · rintro ⟨own', range⟩
      obtain rfl := own.unique own'
      rw [if_pos range]
  · have none := not_exists.1 some_
    obtain ⟨fault, refused⟩ := readPort_eq_error none depth source
    rw [refused]
    refine iff_of_false (by simp) ?_
    rintro ⟨own, -⟩
    exact none n own

/-- The datum breaks the reading of a port off: it is infinite, or it cannot be shown in a report
with room for data down to a depth. -/
inductive Unreportable (depth : Nat) : Datum → Prop where
  | infinite (negative : Bool) : Unreportable depth (.float (.infinite negative))
  | long {v : Datum} {n : Int} : Denotes v n → digitLimit < digitCount n.natAbs →
      Unreportable depth v
  | unwritable {v : Datum} : (∀ n, ¬ Denotes v n) → ¬ v.HasLiteral depth → Unreportable depth v

theorem Denotes.unreportable_iff {v : Datum} {n : Int} (h : Denotes v n) {depth : Nat} :
    Unreportable depth v ↔ digitLimit < digitCount n.natAbs := by
  constructor
  · intro break_
    cases break_ with
    | infinite =>
      cases h with
      | float own => cases own
    | long own longer =>
      obtain rfl := h.unique own
      exact longer
    | unwritable none => exact absurd h (none n)
  · exact .long h

/-- **Which ports are reported.** A datum is read as a port or refused with a report, unless it
cannot be reported on. -/
theorem reported_readPort_iff {depth : Nat} {source : String} {v : Datum} :
    Reported (readPort depth source v) ↔ ¬ Unreportable depth v := by
  by_cases some_ : ∃ n, Denotes v n
  · obtain ⟨n, own⟩ := some_
    rw [own.unreportable_iff, own.readPort_eq depth source, Nat.not_lt]
    split
    · next range =>
      have short : digitCount n.natAbs ≤ 5 :=
        (Nat.length_toDigits_le_iff (by decide) (by decide)).2 (by omega)
      exact iff_of_true (reported_ok n) (Nat.le_trans short (by decide))
    split
    · next short => exact iff_of_true ((reported_error _).2 rfl) short
    · next long => exact iff_of_false (by simp [Fault.isReported]) long
  · have none := not_exists.1 some_
    obtain ⟨infinite, refused⟩ | ⟨finite, refused⟩ := portInteger_eq_error none depth source
    · obtain ⟨negative, rfl⟩ := infinite
      refine iff_of_false ?_ (not_not_intro (.infinite negative))
      simp [readPort, refused, Fault.isReported]
    · rw [readPort, refused, reported_error, noInteger]
      cases shown : v.literalFault? depth with
      | none =>
        have written := Datum.literalFault?_eq_none_iff.1 shown
        refine iff_of_true rfl ?_
        intro break_
        cases break_ with
        | infinite negative => exact finite negative rfl
        | long own => exact none _ own
        | unwritable _ unwritten => exact unwritten written
      | some fault =>
        have unwritten : ¬ v.HasLiteral depth := by
          rw [← Datum.literalFault?_eq_none_iff, shown]
          simp
        exact iff_of_false (by simp [Fault.isReported])
          (not_not_intro (.unwritable none unwritten))

/-- A text can always be reported on. -/
theorem not_unreportable_text (depth : Nat) (s : String) : ¬ Unreportable depth (.string s) := by
  intro h
  cases h with
  | long own longer =>
    cases own with
    | text read => exact absurd (Decimal.digitCount_readInt_le read) (Nat.not_le.2 longer)
  | unwritable _ unwritten => exact unwritten .string

end LedgerGateway.Config
