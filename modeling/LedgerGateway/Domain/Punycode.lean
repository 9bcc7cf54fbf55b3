/-!
# Punycode

A label with characters beyond ASCII is written in ASCII: its ASCII characters first, and behind a
hyphen where the others stand and which they are. They are told in increasing order, each by the
number of steps from the one before, where a step leads to the next place in the label or, at its
end, to the next code point and the first place. Such numbers are written in base 36, in digits
whose weights adapt to the numbers before.

* `threshold_pos` — a digit below the threshold ends a number, and there is one.
-/

namespace LedgerGateway.Domain.Punycode

/-! ## Digits -/

/-- The digit of a value below 36: a letter, or from 26 on a decimal digit. -/
def digit (n : Nat) : Char := if n < 26 then Char.ofNat (97 + n) else Char.ofNat (22 + n)

/-- The value of a digit, in either case. -/
def digitValue? (c : Char) : Option Nat :=
  if c.isAlpha then some (c.toLower.toNat - 97)
  else if c.isDigit then some (c.toNat - 22)
  else none

/-- The threshold of the digit at a position, which is counted in steps of 36. A digit below it is
the last one. -/
def threshold (bias position : Nat) : Nat := max 1 (min 26 (position - bias))

theorem threshold_pos (bias position : Nat) : 0 < threshold bias position :=
  Nat.lt_of_lt_of_le Nat.one_pos (Nat.le_max_left _ _)

/-- Divides a number by 35 until it is at most 455, and counts the divisions in steps of 36. -/
def settle (n steps : Nat) : Nat × Nat :=
  if 455 < n then settle (n / 35) (steps + 36) else (n, steps)
termination_by n
decreasing_by omega

/-- The bias behind a number, when so many characters are in place. The first number is divided by
700 and each later one by two. -/
def adapt (number count : Nat) (first : Bool) : Nat :=
  let part := if first then number / 700 else number / 2
  let (n, steps) := settle (part + part / count) 0
  steps + 36 * n / (n + 38)

/-- The bias in front of the first number. -/
def firstBias : Nat := 72

/-- The first code point beyond ASCII. -/
def firstPoint : Nat := 0x80

/-! ## Writing -/

/-- The digits of a number from a position on. -/
def digitsFrom (bias position n : Nat) : List Char :=
  let t := threshold bias position
  if n < t then [digit n]
  else digit (t + (n - t) % (36 - t)) :: digitsFrom bias (position + 36) ((n - t) / (36 - t))
termination_by n
decreasing_by
  have positive := threshold_pos bias position
  have quotient := Nat.div_le_self (n - threshold bias position) (36 - threshold bias position)
  omega

/-- How far the writing of a label has come. -/
structure Writing where
  /-- The code point that is told next, or one above the last. -/
  point : Nat
  /-- The steps since the last character that was told. -/
  number : Nat
  bias : Nat
  /-- How many characters are in place. -/
  count : Nat
  written : List Char

/-- Goes past a character of the label, and tells it if it is the code point that is told. -/
def Writing.pass (basic : Nat) (w : Writing) (n : Nat) : Writing :=
  if n < w.point then { w with number := w.number + 1 }
  else if n = w.point then
    { w with
      number := 0
      bias := adapt w.number (w.count + 1) (w.count = basic)
      count := w.count + 1
      written := w.written ++ digitsFrom w.bias 36 w.number }
  else w

/-- Tells a code point wherever it stands in a label. -/
def Writing.tell (label : List Nat) (basic : Nat) (w : Writing) (point : Nat) : Writing :=
  let reached :=
    { w with point, number := w.number + (point - w.point) * (w.count + 1) }
  let passed := label.foldl (Writing.pass basic) reached
  { passed with point := passed.point + 1, number := passed.number + 1 }

/-- The code points of a label beyond ASCII, in increasing order and each once. -/
def pointsBeyond (label : List Nat) : List Nat :=
  ((label.filter fun n => firstPoint ≤ n).mergeSort fun a b => a ≤ b).eraseDups

/-- A label in ASCII. -/
def encode (label : List Nat) : List Char :=
  let basic := (label.filter fun n => n < firstPoint).map Char.ofNat
  let start : Writing := ⟨firstPoint, 0, firstBias, basic.length, []⟩
  let told := (pointsBeyond label).foldl (Writing.tell label basic.length) start
  if basic.isEmpty then told.written else basic ++ '-' :: told.written

/-! ## Reading -/

/-- Reads the digits of a number from a position on: the number, and the text behind it. -/
def readNumber (bias position weight sum : Nat) : List Char → Option (Nat × List Char)
  | [] => none
  | c :: rest =>
    match digitValue? c with
    | none => none
    | some value =>
      let sum := sum + value * weight
      let t := threshold bias position
      if value < t then some (sum, rest)
      else readNumber bias (position + 36) (weight * (36 - t)) sum rest

theorem readNumber_length {bias position weight sum n : Nat} {s rest : List Char}
    (h : readNumber bias position weight sum s = some (n, rest)) : rest.length < s.length := by
  induction s generalizing position weight sum with
  | nil => cases h
  | cons c tail ih =>
      simp only [readNumber] at h
      cases value : digitValue? c with
      | none => simp [value] at h
      | some v =>
          simp only [value] at h
          split at h
          · cases h
            exact Nat.lt_succ_self _
          · exact Nat.lt_succ_of_lt (ih h)

/-- Puts the characters that numbers tell into a label. The place is the one at which the steps of
the next number begin. -/
def insertFrom (label : List Nat) (point place bias : Nat) (first : Bool) (s : List Char) :
    Option (List Nat) :=
  match s with
  | [] => some label
  | c :: tail =>
    match _h : readNumber bias 36 1 0 (c :: tail) with
    | none => none
    | some (number, rest) =>
      let count := label.length + 1
      let point := point + (place + number) / count
      let place := (place + number) % count
      if 0x10FFFF < point then none
      else
        insertFrom (label.take place ++ point :: label.drop place) point (place + 1)
          (adapt number count first) false rest
termination_by s.length
decreasing_by exact readNumber_length ‹_›

/-- The code points of a label that is written in ASCII. -/
def decode? (s : List Char) : Option (List Nat) :=
  let behind := (s.reverse.takeWhile (· ≠ '-')).reverse
  let basic := (s.take (s.length - behind.length)).dropLast
  insertFrom (basic.map Char.toNat) firstPoint 0 firstBias true behind

end LedgerGateway.Domain.Punycode
