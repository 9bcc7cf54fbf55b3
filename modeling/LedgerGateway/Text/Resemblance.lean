/-!
# Names that resemble a word

A name that is not known may be a known one misspelt. How much two texts have in common is counted
by runs: the longest run that stands in both of them, then the longest runs in what stands in front
of it and behind it on both sides, and so on. Two texts resemble each other if at least three fifths
of all their characters lie in such runs.
-/

namespace LedgerGateway.Text

/-- A run of characters that stands in two texts: how long it is and where it begins in each. -/
structure SharedRun where
  size : Nat
  first : Nat
  second : Nat
  deriving DecidableEq, Repr

namespace SharedRun

/-- The longer of two runs; of two that are equally long, the first one. -/
def longer (r s : SharedRun) : SharedRun := if r.size < s.size then s else r

/-- How many characters two texts have in common at their beginnings. -/
def commonStart : List Char → List Char → Nat
  | a :: as, b :: bs => if a = b then commonStart as bs + 1 else 0
  | _, _ => 0

/-- The longest run that begins where the first text does. -/
def fromStart (s : List Char) : List Char → SharedRun
  | [] => ⟨0, 0, 0⟩
  | b :: bs =>
    let later := fromStart s bs
    longer ⟨commonStart s (b :: bs), 0, 0⟩ ⟨later.size, 0, later.second + 1⟩

/-- The longest run of two texts; of several, the one that begins first in the first text, and then
in the second. -/
def longest : List Char → List Char → SharedRun
  | [], _ => ⟨0, 0, 0⟩
  | a :: as, t =>
    let later := longest as t
    longer (fromStart (a :: as) t) ⟨later.size, later.first + 1, later.second⟩

theorem commonStart_le (s t : List Char) : commonStart s t ≤ s.length := by
  fun_induction commonStart s t with
  | case1 a as bs ih => simpa using ih
  | case2 => exact Nat.zero_le _
  | case3 => exact Nat.zero_le _

theorem fromStart_le (s t : List Char) :
    (fromStart s t).first + (fromStart s t).size ≤ s.length := by
  induction t with
  | nil => exact Nat.zero_le _
  | cons b bs ih =>
      simp only [fromStart, longer]
      split
      · have := ih
        simp only
        omega
      · have := commonStart_le s (b :: bs)
        simp only
        omega

/-- The longest run lies inside the first text. -/
theorem longest_le (s t : List Char) :
    (longest s t).first + (longest s t).size ≤ s.length := by
  induction s with
  | nil => exact Nat.zero_le _
  | cons a as ih =>
      simp only [longest, longer]
      split
      · simp only [List.length_cons]
        omega
      · exact fromStart_le (a :: as) t

end SharedRun

/-- How many characters of two texts lie in runs that they share. -/
def shared (s t : List Char) : Nat :=
  let run := SharedRun.longest s t
  if run.size = 0 then 0
  else
    shared (s.take run.first) (t.take run.second) + run.size
      + shared (s.drop (run.first + run.size)) (t.drop (run.second + run.size))
termination_by s.length
decreasing_by
  · have inside := SharedRun.longest_le s t
    have some : ¬(SharedRun.longest s t).size = 0 := ‹_›
    simp only [List.length_take]
    omega
  · have inside := SharedRun.longest_le s t
    have some : ¬(SharedRun.longest s t).size = 0 := ‹_›
    simp only [List.length_drop]
    omega

/-- Whether one resemblance is weaker than another, each as a number of shared characters out of a
number of characters. -/
def weaker (p q : Nat × Nat) : Bool := p.1 * q.2 < q.1 * p.2

/-- How much two texts resemble each other: the characters they share, and half of all they have. -/
def resemblance (s t : List Char) : Nat × Nat := (2 * shared s t, s.length + t.length)

/-- Whether two texts resemble each other. -/
def resembles (s t : List Char) : Bool := !weaker (resemblance s t) (3, 5)

/-- Whether a name comes in front of another one among those that resemble a word: if it resembles
it more, or as much and comes behind it in the order of texts. -/
def closer (word a b : String) : Bool :=
  let p := resemblance a.toList word.toList
  let q := resemblance b.toList word.toList
  weaker q p || (!weaker p q && b ≤ a)

/-- The names that resemble a word most, in the order of texts; there are three of them at most. -/
def lookalikes (names : List String) (word : String) : List String :=
  let near := names.filter fun name => resembles name.toList word.toList
  ((near.mergeSort (closer word)).take 3).mergeSort fun a b => a ≤ b

end LedgerGateway.Text
