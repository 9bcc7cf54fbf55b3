import LedgerGateway.Association
import LedgerGateway.Text.Blank

/-!
# Environment files

An environment file assigns texts to keys, one assignment a line: an optional `export`, a key, an
equals sign and a value. A value is bare, up to the end of its line or a comment behind a blank, or
stands between quotes, and then may take several lines. A key without an equals sign has no value. A
line that does not fit is skipped. In every value `${NAME}` stands for the value of an earlier key,
and `${NAME:-text}` for that text if there is no such key.
-/

namespace LedgerGateway.Settings.EnvFile

open Text (isBlank isInlineBlank)

/-! ## Lines -/

/-- The text behind the end of the current line. -/
def skipLine (s : List Char) : List Char := (s.dropWhile (· ≠ '\n')).drop 1

/-- The text behind blanks and the end of the line; nothing if something else stands there. -/
def endLine? (s : List Char) : Option (List Char) :=
  match s.dropWhile isInlineBlank with
  | [] => some []
  | '\n' :: rest => some rest
  | _ => none

/-- The text without a comment in front; the end of the line stays. -/
def dropComment (s : List Char) : List Char :=
  match s.dropWhile isInlineBlank with
  | '#' :: rest => rest.dropWhile (· ≠ '\n')
  | _ => s

/-- The text without the word `export` and the blanks behind it. -/
def dropExport (s : List Char) : List Char :=
  let word := "export".toList
  if word.isPrefixOf s then
    let rest := s.drop word.length
    let next := rest.dropWhile isInlineBlank
    if next.length < rest.length then next else s
  else s

/-! ## Keys and values -/

/-- A key and the text behind it. A comment counts as a line without a key. -/
def readKey : List Char → Option (Option String × List Char)
  | '#' :: rest => some (none, '#' :: rest)
  | '\'' :: rest =>
    let key := rest.takeWhile (· ≠ '\'')
    match rest.drop key.length with
    | '\'' :: rest => if key.isEmpty then none else some (some (String.ofList key), rest)
    | _ => none
  | s =>
    let key := s.takeWhile fun c => c ≠ '=' && c ≠ '#' && !isBlank c
    if key.isEmpty then none else some (some (String.ofList key), s.drop key.length)

/-- The text between quotes, given what follows the opening one, and the text behind the closing
one. A backslash and the character behind it belong together, so a quote behind a backslash does not
close the text. -/
def splitQuoted (quote : Char) : List Char → Option (List Char × List Char)
  | [] => none
  | [c] => if c = quote then some ([], []) else none
  | c :: d :: rest =>
    if c = quote then some ([], d :: rest)
    else if c = '\\' then (splitQuoted quote rest).map fun p => (c :: d :: p.1, p.2)
    else (splitQuoted quote (d :: rest)).map fun p => (c :: p.1, p.2)

/-- What a backslash and a letter stand for between double quotes. -/
def doubleEscape? : Char → Option Char
  | '\\' => some '\\'
  | '\'' => some '\''
  | '"' => some '"'
  | 'a' => some '\x07'
  | 'b' => some '\x08'
  | 'f' => some '\x0c'
  | 'n' => some '\n'
  | 'r' => some '\r'
  | 't' => some '\t'
  | 'v' => some '\x0b'
  | _ => none

/-- What a backslash and a character stand for between single quotes. -/
def singleEscape? : Char → Option Char
  | '\\' => some '\\'
  | '\'' => some '\''
  | _ => none

/-- Resolves escapes; what is none stays as it is. -/
def unescape (escape? : Char → Option Char) : List Char → List Char
  | [] => []
  | [c] => [c]
  | c :: d :: rest =>
    if c = '\\' then
      match escape? d with
      | some e => e :: unescape escape? rest
      | none => c :: unescape escape? (d :: rest)
    else c :: unescape escape? (d :: rest)

/-- The text up to a comment, which begins with a blank. The flag tells whether a blank stands
directly in front. -/
def cutComment : Bool → List Char → List Char
  | _, [] => []
  | afterBlank, c :: rest =>
    if afterBlank && c = '#' then [] else c :: cutComment (isBlank c) rest

/-- A value and the text behind it. The flag tells whether a blank stands in front of the value. -/
def readValue (afterBlank : Bool) : List Char → Option (List Char × List Char)
  | [] => some ([], [])
  | '\n' :: rest => some ([], '\n' :: rest)
  | '\'' :: rest => (splitQuoted '\'' rest).map fun p => (unescape singleEscape? p.1, p.2)
  | '"' :: rest => (splitQuoted '"' rest).map fun p => (unescape doubleEscape? p.1, p.2)
  | s =>
    let line := s.takeWhile (· ≠ '\n')
    some (Text.trimEnd (cutComment afterBlank line), s.drop line.length)

/-! ## Assignments -/

/-- A key, and its value if it has one. -/
abbrev Binding := String × Option (List Char)

/-- The end of a binding behind its key and value: at most a comment may follow. -/
def endBinding (key : Option String) (value : Option (List Char)) (s : List Char) :
    Option Binding × List Char :=
  let s := dropComment s
  match endLine? s with
  | some rest => (key.map (·, value), rest)
  | none => (none, skipLine s)

/-- The next binding, if the next line has one, and the text behind it. -/
def readBinding (s : List Char) : Option Binding × List Char :=
  let s := dropExport (s.dropWhile isBlank)
  match readKey s with
  | none => (none, skipLine s)
  | some (key, s) =>
    let s := s.dropWhile isInlineBlank
    match s with
    | '=' :: rest =>
      let s := rest.dropWhile isInlineBlank
      match readValue (s.length < rest.length) s with
      | none => (none, skipLine s)
      | some (value, rest) => endBinding key (some value) rest
    | _ => endBinding key none s

/-- The bindings of a text in order. Each step takes at least one character. -/
def readBindings (s : List Char) : List Binding :=
  if s.isEmpty then []
  else
    let (binding, rest) := readBinding s
    binding.toList ++ (if rest.length < s.length then readBindings rest else [])
termination_by s.length

/-! ## Expansion -/

/-- The name and the substitute of a reference at the start of a text, and the text behind it. -/
def readReference : List Char → Option (String × List Char × List Char)
  | '$' :: '\x7b' :: inner =>
    let name := inner.takeWhile fun c => c ≠ '\x7d' && c ≠ ':'
    match inner.drop name.length with
    | '\x7d' :: rest => some (String.ofList name, [], rest)
    | ':' :: '-' :: rest =>
      let substitute := rest.takeWhile (· ≠ '\x7d')
      match rest.drop substitute.length with
      | '\x7d' :: rest => some (String.ofList name, substitute, rest)
      | _ => none
    | _ => none
  | _ => none

/-- The value of a key; an unknown key has the substitute and a key without a value nothing. -/
def resolve (known : List Binding) (name : String) (substitute : List Char) : List Char :=
  match known.lookup name with
  | some value => value.getD []
  | none => substitute

/-- The text with each reference replaced by the value of its key. -/
def expand (known : List Binding) (s : List Char) : List Char :=
  match s with
  | [] => []
  | c :: tail =>
    match readReference (c :: tail) with
    | some (name, substitute, rest) =>
      resolve known name substitute
        ++ (if rest.length ≤ tail.length then expand known rest else [])
    | none => c :: expand known tail
termination_by s.length
decreasing_by all_goals simp only [List.length_cons]; omega

/-- Adds a binding to those before it, its value expanded. -/
def define (known : List Binding) (binding : Binding) : List Binding :=
  Association.put known binding.1 (binding.2.map (expand known))

/-- The text with every line ended by a line feed alone. -/
def plainLines : List Char → List Char
  | [] => []
  | ['\r'] => ['\n']
  | '\r' :: '\n' :: rest => '\n' :: plainLines rest
  | '\r' :: c :: rest => '\n' :: plainLines (c :: rest)
  | c :: rest => c :: plainLines rest

/-- The text without the mark of its encoding in front. -/
def dropMark : List Char → List Char
  | '\ufeff' :: rest => rest
  | s => s

/-- The keys of an environment file, each with its last value. -/
def read (text : String) : List Binding :=
  (readBindings (plainLines (dropMark text.toList))).foldl define []

end LedgerGateway.Settings.EnvFile
