import LedgerGateway.Hex.Digit
import LedgerGateway.Text.Blank
import LedgerGateway.Text.Word

/-!
# Marked spans of a log line

A console marks parts of a log line: addresses and other hexadecimal numbers, the names of the
levels, the name of the logger, the names of methods and the time stamp. Each kind of part has a
rule that looks for one at a place of the line, given the character in front of it. The line is
searched from left to right for each kind in turn, and a search goes on behind what it found.

* `scan` — the search for one kind.
* `spans` — the spans of all kinds in a line.
-/

namespace LedgerGateway.Log

/-- The kinds of marked parts, in the order in which they are searched. -/
inductive Mark where
  | address
  | hex
  | levelCritical
  | levelDebug
  | levelError
  | levelInfo
  | levelWarning
  | loggerName
  | method
  | timestamp
  deriving DecidableEq, Repr

namespace Mark

/-- All kinds, in order. -/
def all : List Mark :=
  [.address, .hex, .levelCritical, .levelDebug, .levelError, .levelInfo, .levelWarning, .loggerName,
   .method, .timestamp]

/-- The name of the style that a kind is shown in. -/
def style : Mark → String
  | .address => "seth.address"
  | .hex => "seth.hex"
  | .levelCritical => "seth.level_critical"
  | .levelDebug => "seth.level_debug"
  | .levelError => "seth.level_error"
  | .levelInfo => "seth.level_info"
  | .levelWarning => "seth.level_warning"
  | .loggerName => "seth.logger_name"
  | .method => "seth.method"
  | .timestamp => "seth.timestamp"

end Mark

/-- A marked part of a line, from its first character to the one behind its last. -/
structure Span where
  start : Nat
  stop : Nat
  mark : Mark
  deriving DecidableEq, Repr

namespace Highlight

/-! ## Rules -/

/-- What a rule finds: characters that lead up to the marked part, and the marked part. -/
structure Hit where
  lead : Nat
  length : Nat
  deriving DecidableEq, Repr

/-- A rule looks for a part at a place, given the character in front and the line from there. -/
abbrev Rule := Option Char → List Char → Option Hit

/-- Whether a word character comes first. -/
def wordFirst (s : List Char) : Bool := s.head?.any Text.isWord

/-- The rule for words of a shape, which tells the length of such a word in front of a text. -/
def wholeWord (shape : List Char → Option Nat) : Rule := fun before s =>
  if before.any Text.isWord then none
  else
    match shape s with
    | none => none
    | some n => if wordFirst (s.drop n) then none else some ⟨0, n⟩

/-- A given word. -/
def literal (word : List Char) (s : List Char) : Option Nat :=
  if word.isPrefixOf s then some word.length else none

/-- The mark of a hexadecimal number and at least one digit. -/
def hexNumber : List Char → Option Nat
  | '0' :: 'x' :: rest =>
    match (rest.takeWhile Hex.isDigit).length with
    | 0 => none
    | n => some (n + 2)
  | _ => none

/-- How many digits an address has. -/
def addressDigits : Nat := 40

/-- The mark of a hexadecimal number and the digits of an address. -/
def addressNumber : List Char → Option Nat
  | '0' :: 'x' :: rest =>
    let ds := rest.take addressDigits
    if ds.length = addressDigits ∧ ds.all Hex.isDigit then some (addressDigits + 2) else none
  | _ => none

/-- The families of methods. -/
def families : List (List Char) := ["eth_".toList, "net_".toList, "web3_".toList]

/-- A family of methods and at least one ASCII letter. -/
def methodName (s : List Char) : Option Nat := do
  let family ← families.find? fun family => family.isPrefixOf s
  match ((s.drop family.length).takeWhile Char.isAlpha).length with
  | 0 => none
  | n => some (family.length + n)

/-- At least one character of a class in front of a text: how many, and the rest. -/
def run (p : Char → Bool) (s : List Char) : Option (Nat × List Char) :=
  match (s.takeWhile p).length with
  | 0 => none
  | n => some (n, s.drop n)

/-- The text behind a dash. -/
def dash : List Char → Option (List Char)
  | '-' :: rest => some rest
  | _ => none

/-- Whether a dash between blanks comes first. -/
def dashNext : List Char → Bool
  | a :: '-' :: b :: _ => Text.isBlank a && Text.isBlank b
  | _ => false

/-- Whether the character may stand in the name of a logger. -/
def isNameCharacter (c : Char) : Bool := Text.isWord c || c = '.'

/-- A logger's name behind a word, each between dashes with blanks. -/
def loggerName : Rule := fun _ s => do
  let s ← dash s
  let (a, s) ← run Text.isBlank s
  let (b, s) ← run Text.isWord s
  let (c, s) ← run Text.isBlank s
  let s ← dash s
  let (d, s) ← run Text.isBlank s
  let (n, s) ← run isNameCharacter s
  if dashNext s then some ⟨a + b + c + d + 2, n⟩ else none

/-- The length of a text's first line up to the end of the letters `UTC`, if they occur in it. -/
def upToZone : List Char → Option Nat
  | [] => none
  | '\n' :: _ => none
  | 'U' :: 'T' :: 'C' :: _ => some 3
  | _ :: rest => (upToZone rest).map (· + 1)

/-- The time stamp at the beginning. -/
def timestamp : Rule := fun before s =>
  if before.isSome then none else (upToZone s).map (⟨0, ·⟩)

/-- The rule of a kind. -/
def rule : Mark → Rule
  | .address => wholeWord addressNumber
  | .hex => wholeWord hexNumber
  | .levelCritical => wholeWord (literal "CRITICAL".toList)
  | .levelDebug => wholeWord (literal "DEBUG".toList)
  | .levelError => wholeWord (literal "ERROR".toList)
  | .levelInfo => wholeWord (literal "INFO".toList)
  | .levelWarning => wholeWord (literal "WARNING".toList)
  | .loggerName => loggerName
  | .method => wholeWord methodName
  | .timestamp => timestamp

/-! ## Searching -/

/-- Searches a text from left to right, given the character in front of it, the number of characters
that an earlier part still covers, and the place of the text in its line. -/
def scan (r : Rule) (before : Option Char) (covered place : Nat) : List Char → List (Nat × Nat)
  | [] => []
  | c :: rest =>
    match covered with
    | n + 1 => scan r (some c) n (place + 1) rest
    | 0 =>
      match r before (c :: rest) with
      | none => scan r (some c) 0 (place + 1) rest
      | some hit =>
        let start := place + hit.lead
        (start, start + hit.length) :: scan r (some c) (hit.lead + hit.length - 1) (place + 1) rest

/-- Whether a console drops the character before it looks at a line: bell, backspace, vertical tab,
form feed and carriage return. -/
def isDropped (c : Char) : Bool := c.toNat = 7 || c.toNat = 8 || (11 ≤ c.toNat && c.toNat ≤ 13)

/-- The spans of a line, kind by kind. -/
def spans (line : String) : List Span :=
  let shown := line.toList.filter fun c => !isDropped c
  Mark.all.flatMap fun mark =>
    (scan (rule mark) none 0 0 shown).map fun (start, stop) => ⟨start, stop, mark⟩

end Highlight

end LedgerGateway.Log
