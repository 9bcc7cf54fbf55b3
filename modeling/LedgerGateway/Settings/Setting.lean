import LedgerGateway.Datum.Basic

/-!
# Settings

A setting is a text or a flag, and remembers its built-in default. It is a flag when its text is
the word true or false, in letters of any case and with blanks around it.

A word with the long s, U+017F, in place of an s is the word false as far as case goes, and is
refused: it names no truth value.
-/

namespace LedgerGateway.Settings

/-- The letter without case, as far as the words true and false go. -/
def foldCase (c : Char) : Char := if c = '\u017F' then 's' else c.toLower

/-- A text that is a truth value but for the letters it is written in. -/
structure FlagFault where
  text : String
  deriving DecidableEq, Repr

/-- The truth value of a text, if it is one. -/
def flagOf? (s : String) : Except FlagFault (Option Bool) :=
  let word := Text.trim s.toList
  let folded := word.map foldCase
  if folded = "true".toList ∨ folded = "false".toList then
    if word.contains '\u017F' then .error ⟨s⟩ else .ok (some (folded = "true".toList))
  else .ok none

/-- The value of a raw datum: text that is a truth value becomes one, all else stays. -/
def parseFlag : Datum → Except FlagFault Datum
  | .string s =>
    match flagOf? s with
    | .ok (some b) => .ok (.bool b)
    | .ok none => .ok (.string s)
    | .error fault => .error fault
  | d => .ok d

/-- A setting and its built-in default. -/
inductive Setting where
  | text (value : String) (default : Datum)
  | flag (value : Bool) (default : Datum)
  deriving Repr

namespace Setting

/-- The built-in default. -/
def default : Setting → Datum
  | .text _ default => default
  | .flag _ default => default

/-- The setting as text. -/
def toText : Setting → String
  | .text value _ => value
  | .flag true _ => "True"
  | .flag false _ => "False"

/-- Whether the setting counts as true: a flag that is set, or any text. -/
def truth : Setting → Bool
  | .text value _ => value ≠ ""
  | .flag value _ => value

/-- Whether the setting equals a datum. A flag equals the numbers one and zero too. -/
def equals : Setting → Datum → Bool
  | .text value _, .string s => value = s
  | .flag value _, .bool b => value = b
  | .flag value _, .int n => n = if value then 1 else 0
  | .flag value _, .float x => x.eqInt (if value then 1 else 0)
  | _, _ => false

/-- The setting that a raw text makes beside the raw text of its default. -/
def ofText (raw default : String) : Except FlagFault Setting :=
  match parseFlag (.string default) with
  | .error fault => .error fault
  | .ok default =>
    match flagOf? raw with
    | .error fault => .error fault
    | .ok (some b) => .ok (.flag b default)
    | .ok none => .ok (.text raw default)

end Setting

end LedgerGateway.Settings
