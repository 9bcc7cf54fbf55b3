import LedgerGateway.Hex.Digit
import LedgerGateway.Toml.Fault

/-!
# Quoted text in TOML

Text stands between double quotes with escapes, or between single quotes as it is. Either may take
several lines between three quotes; then a newline directly behind the opening is dropped, and up
to two quotes in front of the closing belong to the text. A backslash at the end of a line drops
the blanks and line ends that follow.
-/

namespace LedgerGateway.Toml

open Text.Unread

/-- The character of an escape of one letter. -/
def shortEscape? : Char → Option Char
  | 'b' => some '\x08'
  | 't' => some '\t'
  | 'n' => some '\n'
  | 'f' => some '\x0c'
  | 'r' => some '\r'
  | '"' => some '"'
  | '\\' => some '\\'
  | _ => none

/-- The character of a numbered escape with some digits, if they spell one. -/
def numbered? (count : Nat) (s : List Char) : Option Char :=
  let ds := s.take count
  if ds.length = count then
    match Hex.value? ds with
    | some n => if n.isValidChar then some (Char.ofNat n) else none
    | none => none
  else none

/-- The character of an escape, given the text behind its backslash. -/
def readEscape (s : List Char) : Option (Char × After s) :=
  match s with
  | [] => none
  | 'u' :: rest => (numbered? 4 rest).map fun c => (c, drop 'u' rest 5)
  | 'U' :: rest => (numbered? 8 rest).map fun c => (c, drop 'U' rest 9)
  | e :: rest => (shortEscape? e).map fun c => (c, tail e rest)

/-- The text behind a line that ends in a backslash, given what follows the backslash: blanks and
the end of the line, then any blanks and line ends. A text that ends there is left to its reader. -/
def continueLine (s : List Char) : Option (UpTo s) :=
  match skip isGap s with
  | ⟨[], _⟩ => some (atEnd s)
  | ⟨c :: rest, h⟩ =>
    if c = '\n' then some (chainBoth h (weaken (pastAll c (skip isGapOrNewline rest)))) else none

/-- The rest of a text between double quotes on one line, behind what was read of it (last
character first). -/
def readBasic (acc s : List Char) : Option (List Char × After s) :=
  match s with
  | [] => none
  | '"' :: rest => some (acc.reverse, tail '"' rest)
  | '\\' :: rest =>
    match readEscape rest with
    | none => none
    | some (c, ⟨r, h⟩) =>
      match readBasic (c :: acc) r with
      | none => none
      | some (text, a) => some (text, past '\\' (chain h a))
  | c :: rest =>
    if isIllegal c then none
    else
      match readBasic (c :: acc) rest with
      | none => none
      | some (text, a) => some (text, past c a)
termination_by s.length
decreasing_by all_goals simp only [List.length_cons]; omega

/-- The rest of a text between three double quotes, behind what was read of it (last character
first). -/
def readBasicLines (acc s : List Char) : Option (List Char × After s) :=
  match s with
  | [] => none
  | '"' :: '"' :: '"' :: rest => some (acc.reverse, drop '"' ('"' :: '"' :: rest) 3)
  | '\\' :: rest =>
    if rest.head?.any isGapOrNewline then
      match continueLine rest with
      | none => none
      | some ⟨r, h⟩ =>
        match readBasicLines acc r with
        | none => none
        | some (text, a) => some (text, past '\\' (chainAfter h a))
    else
      match readEscape rest with
      | none => none
      | some (c, ⟨r, h⟩) =>
        match readBasicLines (c :: acc) r with
        | none => none
        | some (text, a) => some (text, past '\\' (chain h a))
  | c :: rest =>
    if isIllegal c && c ≠ '\n' then none
    else
      match readBasicLines (c :: acc) rest with
      | none => none
      | some (text, a) => some (text, past c a)
termination_by s.length
decreasing_by all_goals simp only [List.length_cons]; omega

/-- The rest of a text between single quotes on one line. -/
def readLiteral (s : List Char) : Option (List Char × After s) :=
  match s with
  | [] => none
  | '\'' :: rest => some ([], tail '\'' rest)
  | c :: rest =>
    if isIllegal c then none
    else
      match readLiteral rest with
      | none => none
      | some (text, a) => some (c :: text, past c a)

/-- The rest of a text between three single quotes. -/
def readLiteralLines (s : List Char) : Option (List Char × After s) :=
  match s with
  | [] => none
  | '\'' :: '\'' :: '\'' :: rest => some ([], drop '\'' ('\'' :: '\'' :: rest) 3)
  | c :: rest =>
    if isIllegal c && c ≠ '\n' then none
    else
      match readLiteralLines rest with
      | none => none
      | some (text, a) => some (c :: text, past c a)

/-- Up to two quotes behind a closing of three belong to the text. -/
def takeExtraQuotes (quote : Char) {s : List Char} (text : List Char) (r : After s) :
    List Char × After s :=
  match r with
  | ⟨c :: d :: rest, h⟩ =>
    if c ≠ quote then (text, r)
    else if d ≠ quote then (text ++ [quote], chain h (tail c (d :: rest)))
    else (text ++ [quote, quote], chain h (past c (tail d rest)))
  | ⟨[c], h⟩ => if c ≠ quote then (text, r) else (text ++ [quote], chain h (tail c []))
  | ⟨[], _⟩ => (text, r)

/-- The text without a newline in front. -/
def dropNewline (s : List Char) : UpTo s :=
  match s with
  | '\n' :: rest => weaken (tail '\n' rest)
  | s => whole s

/-- A quoted text of one or several lines, if one comes next. -/
def readQuoted (s : List Char) : Option (List Char × After s) :=
  match s with
  | '"' :: '"' :: '"' :: rest =>
    match dropNewline rest with
    | ⟨body, h⟩ =>
      match readBasicLines [] body with
      | none => none
      | some (text, a) =>
        some (takeExtraQuotes '"' text (past '"' (past '"' (past '"' (chainAfter h a)))))
  | '\'' :: '\'' :: '\'' :: rest =>
    match dropNewline rest with
    | ⟨body, h⟩ =>
      match readLiteralLines body with
      | none => none
      | some (text, a) =>
        some (takeExtraQuotes '\'' text (past '\'' (past '\'' (past '\'' (chainAfter h a)))))
  | '"' :: rest =>
    match readBasic [] rest with
    | none => none
    | some (text, a) => some (text, past '"' a)
  | '\'' :: rest =>
    match readLiteral rest with
    | none => none
    | some (text, a) => some (text, past '\'' a)
  | _ => none

end LedgerGateway.Toml
