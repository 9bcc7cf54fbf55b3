import LedgerGateway.Text.ControlSequence

/-!
# Text that is safe to show on a terminal

Text that came from outside may steer a terminal by escape sequences and control characters. Both
are taken out before a line is shown: first every complete sequence, from left to right, then every
control character other than tab and line feed that is left.

A sequence is a control sequence, or the escape character and one character that is a command by
itself.

* `behindSequence?_length` — a sequence takes at least one character behind its escape.
-/

namespace LedgerGateway.Log.TerminalSafe

open Text.ControlSequence (escape between behindBracket?)

/-- Whether the character is a command by itself behind an escape. -/
def isCommand (c : Char) : Bool := between 0x40 0x5F c && c != '['

/-- The text behind a sequence, given the text behind its escape character; nothing if no sequence
is complete there. -/
def behindSequence? : List Char → Option (List Char)
  | [] => none
  | c :: rest =>
    if c = '[' then behindBracket? rest
    else if isCommand c then some rest
    else none

/-- A sequence takes at least one character behind its escape. -/
theorem behindSequence?_length {s rest : List Char} (h : behindSequence? s = some rest) :
    rest.length < s.length := by
  cases s with
  | nil => cases h
  | cons c tail =>
      simp only [behindSequence?] at h
      split at h
      · exact Nat.lt_succ_of_lt (Text.ControlSequence.behindBracket?_length h)
      · split at h
        · cases h
          exact Nat.lt_succ_self _
        · cases h

/-- The text without its escape sequences. -/
def removeSequences (s : List Char) : List Char :=
  match s with
  | [] => []
  | c :: rest =>
    if c = escape then
      match _h : behindSequence? rest with
      | some behind => removeSequences behind
      | none => c :: removeSequences rest
    else c :: removeSequences rest
termination_by s.length
decreasing_by
  · have := behindSequence?_length ‹_›
    simp only [List.length_cons]
    omega
  · simp
  · simp

/-- Whether the character is an ASCII control character other than tab and line feed. -/
def isControl (c : Char) : Bool :=
  (c.toNat < 0x20 && c != '\t' && c != '\n') || c == '\x7f'

/-- The text without escape sequences and control characters. -/
def sanitize (s : List Char) : List Char := (removeSequences s).filter fun c => !isControl c

end LedgerGateway.Log.TerminalSafe
