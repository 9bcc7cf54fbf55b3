import LedgerGateway.Text.ControlSequence

/-!
# Colours in what a command prints

A command prints to a place that may be no terminal, so the control sequences, which set colours
and the like, are taken out of what it prints. Whatever else is in the text stays.
-/

namespace LedgerGateway.Cli.Colour

open Text.ControlSequence (escape behindBracket?)

/-- The text behind a control sequence, if one comes first. -/
def behind? : List Char → Option (List Char)
  | c :: '[' :: rest => if c = escape then behindBracket? rest else none
  | _ => none

theorem behind?_length {s rest : List Char} (h : behind? s = some rest) :
    rest.length < s.length := by
  unfold behind? at h
  split at h
  · split at h
    · have shorter := Text.ControlSequence.behindBracket?_length h
      simp only [List.length_cons]
      omega
    · cases h
  · cases h

/-- The text without control sequences. -/
def remove (s : List Char) : List Char :=
  match s with
  | [] => []
  | c :: rest =>
    match _h : behind? (c :: rest) with
    | some others => remove others
    | none => c :: remove rest
termination_by s.length
decreasing_by
  · exact behind?_length ‹_›
  · simp

end LedgerGateway.Cli.Colour
