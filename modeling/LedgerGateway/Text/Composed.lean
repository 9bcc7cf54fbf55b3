import LedgerGateway.Text.CombiningClass
import LedgerGateway.Text.Composite

/-!
# Composed text

The same text may be written with composites or with the characters that they stand for. Its
composed form is found by taking all composites apart, putting the marks behind each character in
the order of their classes, and composing again what can be composed. The text is a list of code
points, since a faulty name may hold ones that are no characters.
-/

namespace LedgerGateway.Text

/-! ## Hangul -/

/-- The first syllable of Hangul. -/
def firstSyllable : Nat := 0xAC00

/-- The number of the syllables of Hangul. -/
def syllableCount : Nat := 11172

/-- The code point in front of the letters that end a syllable. -/
def beforeEnds : Nat := 0x11A7

/-- The two code points that a syllable stands for: another syllable and an end, or a beginning and
a middle. -/
def syllableParts (n : Nat) : Nat × Nat :=
  let index := n - firstSyllable
  if index % 28 = 0 then (0x1100 + index / 588, 0x1161 + index % 588 / 28)
  else (n - index % 28, beforeEnds + index % 28)

/-- The syllable that two code points are composed to. -/
def composeSyllable? (a b : Nat) : Option Nat :=
  if 0x1100 ≤ a ∧ a < 0x1113 ∧ 0x1161 ≤ b ∧ b < 0x1176 then
    some (firstSyllable + ((a - 0x1100) * 21 + (b - 0x1161)) * 28)
  else if firstSyllable ≤ a ∧ a < firstSyllable + syllableCount ∧ (a - firstSyllable) % 28 = 0
      ∧ beforeEnds < b ∧ b < 0x11C3 then
    some (a + (b - beforeEnds))
  else none

/-! ## Taking apart -/

/-- The two code points that a composite stands for. -/
def parts? (n : Nat) : Option (Nat × Nat) :=
  if n < 0xC0 then none
  else if firstSyllable ≤ n ∧ n < firstSyllable + syllableCount then some (syllableParts n)
  else (composites.find? fun c => c.1 = n).map Prod.snd

/-- How often the first part of a composite may be taken apart again. -/
def partDepth : Nat := 3

/-- What a code point stands for, taken apart a number of times at most. -/
def decomposeOne : Nat → Nat → List Nat
  | 0, n => [n]
  | depth + 1, n =>
    match parts? n with
    | some (a, b) => decomposeOne depth a ++ [b]
    | none => [n]

/-- The text with all composites taken apart. -/
def decompose (s : List Nat) : List Nat := s.flatMap (decomposeOne partDepth)

/-- The text with the marks behind each character in the order of their classes. -/
def orderMarks (s : List Nat) : List Nat :=
  match s with
  | [] => []
  | n :: rest =>
    if combiningClass n = 0 then n :: orderMarks rest
    else
      let others := rest.takeWhile fun m => combiningClass m ≠ 0
      (n :: others).mergeSort (fun a b => combiningClass a ≤ combiningClass b)
        ++ orderMarks (rest.drop others.length)
termination_by s.length
decreasing_by
  · exact Nat.lt_succ_self _
  · simp only [List.length_cons, List.length_drop]
    omega

/-! ## Composing -/

/-- The composite of two code points. -/
def compose? (a b : Nat) : Option Nat :=
  (composeSyllable? a b).or ((composites.find? fun c => c.2 = (a, b)).map Prod.fst)

/-- Composes a character with the marks behind it as far as nothing stands in between: a mark that
was passed over keeps those of its own class and below from the character. The marks that were
passed over come in reverse. -/
def composeFrom (n : Nat) (passed : List Nat) : List Nat → List Nat
  | [] => n :: passed.reverse
  | m :: rest =>
    let kept := passed.head?.any fun p => combiningClass m ≤ combiningClass p
    match if kept then none else compose? n m with
    | some whole => composeFrom whole passed rest
    | none =>
      if combiningClass m = 0 then n :: passed.reverse ++ composeFrom m [] rest
      else composeFrom n (m :: passed) rest

/-- The text with everything composed that can be. -/
def compose : List Nat → List Nat
  | [] => []
  | n :: rest => composeFrom n [] rest

/-- Whether a text is in its composed form. -/
def isComposed (s : List Nat) : Bool :=
  !(s.any neverComposed.mem) && compose (orderMarks (decompose s)) = s

end LedgerGateway.Text
