/-!
# What is left of a text

A reader takes a text from the left and returns what it left unread, together with a proof that this
is shorter, or at least not longer, so that reading on comes to an end. The proofs are put together
as the readers are: `chain` for one reader behind another, `past` for a reader behind a character.
-/

namespace LedgerGateway.Text.Unread

/-- What is left of a text after something was taken from it. -/
abbrev After (s : List Char) := { r : List Char // r.length < s.length }

/-- What is left of a text after something may have been taken from it. -/
abbrev UpTo (s : List Char) := { r : List Char // r.length ≤ s.length }

/-- The whole text. -/
def whole (s : List Char) : UpTo s := ⟨s, Nat.le_refl _⟩

/-- The end of the text. -/
def atEnd (s : List Char) : UpTo s := ⟨[], Nat.zero_le _⟩

/-- What is left behind the first character. -/
def tail (c : Char) (rest : List Char) : After (c :: rest) := ⟨rest, Nat.lt_succ_self _⟩

/-- What is left behind a number of characters, at least one. -/
def drop (c : Char) (rest : List Char) (count : Nat) : After (c :: rest) :=
  ⟨rest.drop (count - 1), by simp only [List.length_drop, List.length_cons]; omega⟩

/-- What was left unread behind the first character. -/
def past (c : Char) {rest : List Char} (a : After rest) : After (c :: rest) :=
  ⟨a.val, Nat.lt_succ_of_lt a.property⟩

/-- What may have been left unread behind the first character. -/
def pastAll (c : Char) {rest : List Char} (u : UpTo rest) : After (c :: rest) :=
  ⟨u.val, Nat.lt_succ_of_le u.property⟩

/-- One reader behind another, both of which took something. -/
def chain {s r : List Char} (h : r.length < s.length) (a : After r) : After s :=
  ⟨a.val, Nat.lt_trans a.property h⟩

/-- A reader that took something, behind one that may have. -/
def chainAfter {s r : List Char} (h : r.length ≤ s.length) (a : After r) : After s :=
  ⟨a.val, Nat.lt_of_lt_of_le a.property h⟩

/-- A reader that may have taken something, behind one that did. -/
def chainUpTo {s r : List Char} (h : r.length < s.length) (u : UpTo r) : After s :=
  ⟨u.val, Nat.lt_of_le_of_lt u.property h⟩

/-- One reader behind another, both of which may have taken something. -/
def chainBoth {s r : List Char} (h : r.length ≤ s.length) (u : UpTo r) : UpTo s :=
  ⟨u.val, Nat.le_trans u.property h⟩

/-- What took something may have taken something. -/
def weaken {s : List Char} (a : After s) : UpTo s := ⟨a.val, Nat.le_of_lt a.property⟩

/-- The text without the characters of a class in front. -/
def skip (p : Char → Bool) (s : List Char) : UpTo s :=
  ⟨s.dropWhile p, (List.dropWhile_sublist p).length_le⟩

/-- The text behind a mark, if the mark comes next. -/
def expect (mark : Char) (s : List Char) : Option (After s) :=
  match s with
  | [] => none
  | c :: rest => if c = mark then some (tail c rest) else none

end LedgerGateway.Text.Unread
