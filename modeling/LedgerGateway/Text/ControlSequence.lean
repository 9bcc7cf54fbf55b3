/-!
# Control sequences of a terminal

A control sequence steers a terminal: it sets a colour, moves the mark at which writing goes on, or
clears a line. It is the escape character, an opening bracket, parameters, intermediates and a final
character, each of a range of its own.

* `behindBracket?_length` — a control sequence takes at least one character behind its bracket.
-/

namespace LedgerGateway.Text.ControlSequence

/-- The character that begins a sequence. -/
def escape : Char := '\x1b'

/-- Whether the code point lies between two others. -/
def between (low high : Nat) (c : Char) : Bool := low ≤ c.toNat && c.toNat ≤ high

/-- Whether the character is a parameter of a sequence. -/
def isParameter (c : Char) : Bool := between 0x30 0x3F c

/-- Whether the character is an intermediate of a sequence. -/
def isIntermediate (c : Char) : Bool := between 0x20 0x2F c

/-- Whether the character ends a sequence. -/
def isFinal (c : Char) : Bool := between 0x40 0x7E c

/-- The text behind a sequence, given the text behind its bracket; nothing if no sequence is
complete there. -/
def behindBracket? (s : List Char) : Option (List Char) :=
  match (s.dropWhile isParameter).dropWhile isIntermediate with
  | [] => none
  | c :: rest => if isFinal c then some rest else none

/-- A sequence takes at least one character behind its bracket. -/
theorem behindBracket?_length {s rest : List Char} (h : behindBracket? s = some rest) :
    rest.length < s.length := by
  unfold behindBracket? at h
  have shorter :=
    ((List.dropWhile_sublist isIntermediate).trans
      (List.dropWhile_sublist (l := s) isParameter)).length_le
  generalize (s.dropWhile isParameter).dropWhile isIntermediate = left at h shorter
  cases left with
  | nil => cases h
  | cons c behind =>
      simp only at h
      split at h
      · cases h
        simp only [List.length_cons] at shorter
        omega
      · cases h

end LedgerGateway.Text.ControlSequence
