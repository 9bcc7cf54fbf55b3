import LedgerGateway.Text.CodeRanges
import Mathlib.Data.List.Basic

/-!
# Texts that spell a word in other letters

A table of cases maps each character to a text, and so every text to another one. Only few
characters are mapped to letters of a word that is known, so the texts that are mapped to the word
can be told by these characters alone.

* `ofNat_not_mem` — a code point that is that of no letter.
* `flatMap_eq_iff` — tables that agree on the characters that matter lead to the word alike.
-/

namespace LedgerGateway.Text

variable {letters : List Char}

theorem ofNat_not_mem {n : Nat} (nul : '\x00' ∉ letters) (other : ∀ d ∈ letters, d.toNat ≠ n) :
    Char.ofNat n ∉ letters := by
  intro mem
  by_cases valid : n.isValidChar
  · have same : (Char.ofNat n).toNat = n := by
      rw [Char.ofNat, dif_pos valid]
      rfl
    exact other _ mem same
  · -- A number that is no code point stands for the character zero.
    rw [Char.ofNat, dif_neg valid] at mem
    exact nul mem

section Tables

variable {f g : Char → List Char} {usual : Char → Prop} {s word : List Char}

/-- Only usual characters occur in a text that is mapped to the word. -/
theorem usual_of_flatMap_eq (apart : ∀ c, ¬ usual c → ¬ f c <:+: word) (own : s.flatMap f = word) :
    ∀ c ∈ s, usual c := by
  intro c mem
  by_contra other
  -- What another character is mapped to would have to stand within the word.
  refine apart c other ?_
  rw [← own, List.flatMap_def]
  exact List.infix_of_mem_flatten (List.mem_map_of_mem mem)

theorem flatMap_eq_iff (same : ∀ c, usual c → f c = g c)
    (apart : ∀ c, ¬ usual c → ¬ f c <:+: word ∧ ¬ g c <:+: word) :
    s.flatMap f = word ↔ s.flatMap g = word := by
  have agree (all : ∀ c ∈ s, usual c) : s.flatMap f = s.flatMap g :=
    List.flatMap_congr fun c mem => same c (all c mem)
  constructor
  · intro own
    rw [← agree (usual_of_flatMap_eq (fun c other => (apart c other).1) own), own]
  · intro own
    rw [agree (usual_of_flatMap_eq (fun c other => (apart c other).2) own), own]

end Tables

end LedgerGateway.Text
