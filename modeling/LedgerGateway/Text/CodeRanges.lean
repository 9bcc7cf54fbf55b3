/-!
# Sets of characters as code point ranges

A character class that is data of the Unicode standard is written as a list of closed ranges in
increasing order. Membership walks the list and stops at the first range that begins above the
character, so a small code point never reads the far end of a long table. A property with more than
two values is written alike, with the value beside each range.

* `mem_iff` — on a list in increasing order, membership is what the ranges say.
* `forall_ascii` — a property of the characters of ASCII is checked one by one.
-/

namespace LedgerGateway.Text

/-- Closed ranges of code points. Membership expects them in increasing order. -/
abbrev CodeRanges := List (Nat × Nat)

namespace CodeRanges

/-- Whether the code point lies in one of the ranges. -/
def mem : CodeRanges → Nat → Bool
  | [], _ => false
  | (lo, hi) :: rest, n => if n < lo then false else if n ≤ hi then true else mem rest n

/-- Each range begins above the end of the one before it. -/
def Increasing : CodeRanges → Prop
  | [] => True
  | [(lo, hi)] => lo ≤ hi
  | (lo, hi) :: (lo', hi') :: rest => lo ≤ hi ∧ hi < lo' ∧ Increasing ((lo', hi') :: rest)

theorem Increasing.tail {lo hi : Nat} {rest : CodeRanges} (h : Increasing ((lo, hi) :: rest)) :
    Increasing rest := by
  cases rest with
  | nil => trivial
  | cons head rest => exact h.2.2

theorem Increasing.lt_of_mem {lo hi a b : Nat} {rest : CodeRanges}
    (h : Increasing ((lo, hi) :: rest)) (hm : (a, b) ∈ rest) : hi < a := by
  induction rest generalizing lo hi with
  | nil => simp at hm
  | cons head rest ih =>
      obtain ⟨lo', hi'⟩ := head
      have next : Increasing ((lo', hi') :: rest) := h.tail
      rcases List.mem_cons.1 hm with same | later
      · obtain ⟨rfl, rfl⟩ := Prod.mk.inj same
        exact h.2.1
      · have above := ih next later
        have own : lo' ≤ hi' := by
          cases rest with
          | nil => exact next
          | cons _ _ => exact next.1
        exact Nat.lt_trans (Nat.lt_of_lt_of_le h.2.1 own) above

/-- On ranges in increasing order the walk finds exactly the code points that some range holds. -/
theorem mem_iff {ranges : CodeRanges} (h : Increasing ranges) (n : Nat) :
    mem ranges n = true ↔ ∃ r ∈ ranges, r.1 ≤ n ∧ n ≤ r.2 := by
  induction ranges with
  | nil => simp [mem]
  | cons head rest ih =>
      obtain ⟨lo, hi⟩ := head
      simp only [mem]
      by_cases below : n < lo
      · simp only [below, if_true, Bool.false_eq_true, false_iff]
        rintro ⟨⟨a, b⟩, hm, low, high⟩
        rcases List.mem_cons.1 hm with same | later
        · obtain ⟨rfl, rfl⟩ := Prod.mk.inj same
          exact absurd low (Nat.not_le.2 below)
        · have above := h.lt_of_mem later
          have own : lo ≤ hi := by
            cases rest with
            | nil => exact h
            | cons _ _ => exact h.1
          simp only at low
          omega
      · by_cases inside : n ≤ hi
        · simp only [below, inside, if_false, if_true, true_iff]
          exact ⟨(lo, hi), List.mem_cons_self, Nat.not_lt.1 below, inside⟩
        · simp only [below, inside, if_false]
          rw [ih h.tail]
          constructor
          · rintro ⟨r, hm, bounds⟩
            exact ⟨r, List.mem_cons_of_mem _ hm, bounds⟩
          · rintro ⟨r, hm, bounds⟩
            rcases List.mem_cons.1 hm with same | later
            · subst same
              exact absurd bounds.2 inside
            · exact ⟨r, later, bounds⟩

end CodeRanges

/-- A property of all characters of ASCII. -/
theorem forall_ascii {p : Char → Prop} (h : ∀ n < 0x80, p (Char.ofNat n)) {c : Char}
    (ascii : c.toNat < 0x80) : p c := by
  have own := h c.toNat ascii
  rwa [Char.ofNat_toNat] at own

section Decisions

variable (s : List Char) (p : Char → Prop) [DecidablePred p]

/-- What all characters of a text have in common is decided along the text, rather than over all
characters that there are. -/
instance (priority := high) decidableAll : Decidable (∀ c ∈ s, p c) := List.decidableBAll p s

instance (priority := high) decidableSome : Decidable (∃ c ∈ s, p c) := List.decidableBEx p s

end Decisions

/-- Closed ranges of code points in increasing order, each with a value. -/
abbrev CodeMap (α : Type) := List (Nat × Nat × α)

/-- The value of the range that holds a code point, or the usual one. -/
def CodeMap.value {α : Type} (usual : α) : CodeMap α → Nat → α
  | [], _ => usual
  | (low, high, own) :: rest, n =>
    if n < low then usual else if n ≤ high then own else CodeMap.value usual rest n

end LedgerGateway.Text
