import LedgerGateway.Proofs.FilledTemplates

/-!
# Trying a template with a sample

Whether a template can be filled in is tried with a table of sample values. Of most values the kind
alone counts: a number can be written wherever another one can, and what is no number is written as
a text or a literal only, as every value is that can be shown. The one value that counts as such is
an integer that is written as a character. So a template that the filling comes through with the
samples is one that it comes through with every table with the same keys whose values the samples
stand for.

* `Samples`, `Stands` — the values that a sample stands for; `Stands.exists_written`.
* `Supply.Samples` — the same for tables; `Step.samples`, `Reaches.samples`.
-/

namespace LedgerGateway.Log.Template

open Decimal (Binary64)

/-! ## Values -/

/-- The sample is of the kind of the value. A sample that is no number and no single character goes
for anything. -/
inductive Samples : Datum → Datum → Prop where
  | int {n n' : Int} : (0 ≤ n ∧ n < 0x110000 → 0 ≤ n' ∧ n' < 0x110000) →
      Samples (.int n) (.int n')
  | float (x x' : Binary64) : Samples (.float x) (.float x')
  | other {v v' : Datum} : asInteger? v = none → (∀ x, v ≠ .float x) →
      (∀ s, v = .string s → s.toList.length ≠ 1) → Samples v v'

/-- The sample stands for the value: it is of its kind, and if the sample can be shown, so can the
value, as a text and as a literal. -/
structure Stands (depth : Nat) (v v' : Datum) : Prop where
  kind : Samples v v'
  proper : Proper v'
  literal : v.textFault? depth = none → v'.literalFault? depth = none

section Values

variable {depth : Nat} {l : Layout} {letter : Char} {v v' : Datum} {n : Int} {c : Char}
  {x : Binary64}

theorem Samples.characterOf (samples : Samples v v') (h : characterOf v = .ok c) :
    ∃ c', Template.characterOf v' = .ok c' := by
  cases samples with
  | @int n n' range =>
    have own : 0 ≤ n ∧ n < 0x110000 := by
      by_contra out
      rw [characterOf_out_of_range rfl out] at h
      cases h
    exact ⟨_, if_pos (range own)⟩
  | float => cases h
  | other noInteger _ long =>
    unfold Template.characterOf at h
    split at h
    · split at h
      · next own => exact absurd (congrArg List.length own) (long _ rfl)
      · cases h
    · rw [noInteger] at h
      cases h

theorem Samples.integerOf (samples : Samples v v') (proper : Proper v')
    (h : integerOf letter v = .ok n) :
    ∃ n', Template.integerOf letter v' = .ok n' := by
  cases samples with
  | int => exact ⟨_, rfl⟩
  | float =>
    obtain ⟨-, negative, mantissa, exponent, rfl⟩ := proper
    exact ⟨_, rfl⟩
  | other noInteger noFloat _ =>
    cases v with
    | int => cases noInteger
    | bool => cases noInteger
    | float x => exact absurd rfl (noFloat x)
    | null => cases h
    | string => cases h
    | moment => cases h
    | list => cases h
    | tuple => cases h
    | table => cases h

theorem Samples.wholeOf (samples : Samples v v') (proper : Proper v')
    (h : wholeOf letter v = .ok n) :
    ∃ n', Template.wholeOf letter v' = .ok n' ∧ Decimal.isShort n' = true := by
  cases samples with
  | @int n n' =>
    have own : Template.integerOf letter (.int n') = .ok n' := rfl
    exact ⟨_, rfl, isShort_integerOf proper own⟩
  | float => cases h
  | other noInteger =>
    rw [Template.wholeOf, noInteger] at h
    cases h

theorem Samples.floatOf (samples : Samples v v') (proper : Proper v') (h : floatOf v = .ok x) :
    ∃ x', Template.floatOf v' = .ok x' := by
  cases samples with
  | @int n n' =>
    obtain ⟨negative, mantissa, exponent, own⟩ := Binary64.ofInt_finite proper
    refine ⟨.finite negative mantissa exponent, ?_⟩
    simp only [Template.floatOf, asInteger?, own]
  | float x x' => exact ⟨x', rfl⟩
  | other noInteger noFloat =>
    unfold Template.floatOf at h
    split at h
    · exact absurd rfl (noFloat _)
    · rw [noInteger] at h
      cases h

/-- **What a sample shows.** In the way in which the sample is written every value is that it stands
for. -/
theorem Stands.exists_written {w : Written} (stands : Stands depth v v')
    (written : write? depth l letter v = some (.ok w)) :
    ∃ w', write? depth l letter v' = some (.ok w') := by
  obtain ⟨kind, proper, literal⟩ := stands
  obtain ⟨f, manner, own, others⟩ := exists_manner written
  rw [others v']
  cases manner with
  | text =>
    obtain ⟨cs, read, -⟩ := map_eq_ok_iff.1 own.symm
    have shown := Datum.textFault?_of_literalFault? (literal (textOf_eq_ok_iff.1 read).1)
    exact ⟨_, congrArg some (map_eq_ok_iff.2 ⟨_, textOf_eq_ok_iff.2 ⟨shown, rfl⟩, rfl⟩)⟩
  | literal =>
    obtain ⟨cs, read, -⟩ := map_eq_ok_iff.1 own.symm
    have shown := literal (Datum.textFault?_of_literalFault? (literalOf_eq_ok_iff.1 read).1)
    exact ⟨_, congrArg some (map_eq_ok_iff.2 ⟨_, literalOf_eq_ok_iff.2 ⟨shown, rfl⟩, rfl⟩)⟩
  | ascii =>
    obtain ⟨cs, read, -⟩ := map_eq_ok_iff.1 own.symm
    have shown := literal (Datum.textFault?_of_literalFault? (literalOf_eq_ok_iff.1 read).1)
    exact ⟨_, congrArg some (map_eq_ok_iff.2 ⟨_, literalOf_eq_ok_iff.2 ⟨shown, rfl⟩, rfl⟩)⟩
  | character =>
    obtain ⟨c, read, -⟩ := map_eq_ok_iff.1 own.symm
    obtain ⟨c', read'⟩ := kind.characterOf read
    exact ⟨_, congrArg some (map_eq_ok_iff.2 ⟨c', read', rfl⟩)⟩
  | integer =>
    obtain ⟨n, read, fits⟩ := bind_eq_ok_iff.1 own.symm
    obtain ⟨n', read'⟩ := kind.integerOf proper read
    obtain ⟨w', fits'⟩ := exists_ofInt fits (isShort_integerOf proper read')
    exact ⟨w', congrArg some (bind_eq_ok_iff.2 ⟨n', read', fits'⟩)⟩
  | whole =>
    obtain ⟨n, read, fits⟩ := bind_eq_ok_iff.1 own.symm
    obtain ⟨n', read', short⟩ := kind.wholeOf proper read
    obtain ⟨w', fits'⟩ := exists_ofInt fits short
    exact ⟨w', congrArg some (bind_eq_ok_iff.2 ⟨n', read', fits'⟩)⟩
  | float =>
    obtain ⟨x, read, -⟩ := map_eq_ok_iff.1 own.symm
    obtain ⟨x', read'⟩ := kind.floatOf proper read
    exact ⟨_, congrArg some (map_eq_ok_iff.2 ⟨x', read', rfl⟩)⟩

end Values

/-! ## Tables -/

/-- The values are at hand under the same keys, and the samples stand for them. -/
def Supply.Samples (depth : Nat) (s s' : Supply) : Prop :=
  ∀ key v, s.Holds key v → ∃ v', s'.Holds key v' ∧ Stands depth v v'

theorem Supply.Samples.spent {depth : Nat} {s s' : Supply} (samples : s.Samples depth s') :
    s.spent.Samples depth s'.spent := by
  intro key v holds
  cases key with
  | none => cases holds
  | some key =>
    obtain ⟨v', holds', stands⟩ := samples (some key) v holds
    exact ⟨v', holds', stands⟩

section Run

variable {depth : Nat} {s s' t : Supply} {cs rest : List Char} {pieces : List Piece}

/-- A step that is taken with the samples is taken with the values. -/
theorem Step.samples (step : Step depth s cs pieces t rest) (samples : s.Samples depth s') :
    ∃ pieces' t', Step depth s' cs pieces' t' rest ∧ t.Samples depth t' := by
  cases step with
  | character other => exact ⟨_, s', .character other, samples⟩
  | percent => exact ⟨_, s', .percent, samples⟩
  | directive other spells holds written =>
    obtain ⟨v', holds', stands⟩ := samples _ _ holds
    obtain ⟨w', written'⟩ := stands.exists_written written
    exact ⟨_, s'.spent, .directive other spells holds' written', samples.spent⟩

/-- So is a whole run. -/
theorem Reaches.samples (reaches : Reaches depth s cs pieces t rest)
    (samples : s.Samples depth s') :
    ∃ pieces' t', Reaches depth s' cs pieces' t' rest ∧ t.Samples depth t' := by
  induction reaches generalizing s' with
  | here s cs => exact ⟨_, s', .here s' cs, samples⟩
  | step step _ ih =>
    obtain ⟨_, u, step', samples⟩ := step.samples samples
    obtain ⟨_, t', reaches', samples⟩ := ih samples
    exact ⟨_, t', .step step' reaches', samples⟩

end Run

end LedgerGateway.Log.Template
