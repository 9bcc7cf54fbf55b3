import LedgerGateway.Association
import LedgerGateway.Toml.Moment
import LedgerGateway.Toml.Number
import LedgerGateway.Toml.Quoted

/-!
# Keys and values in TOML

A key is a path of parts with points between them. A value is a text, a truth value, a number, a
moment, an array or an inline table. What an inline table assigns to a path may not be changed by a
later assignment to a longer path. A value is read only if there is room for it inside the others
that it lies in.
-/

namespace LedgerGateway.Toml

open Text.Unread

/-- The parts of a key. -/
abbrev Path := List String

/-- The entries of a table in order. -/
abbrev Entries := List (String × Datum)

/-! ## Keys -/

/-- Whether the character may stand in a key without quotes. -/
def isBare (c : Char) : Bool := c.isAlphanum || c = '-' || c = '_'

/-- Whether a key may begin with the character. -/
def beginsKey (c : Char) : Bool := isBare c || c = '"' || c = '\''

/-- One part of a key. -/
def readPart (s : List Char) : Option (String × After s) :=
  match s with
  | [] => none
  | '\'' :: rest =>
    (readLiteral rest).map fun (text, a) => (String.ofList text, past '\'' a)
  | '"' :: rest =>
    (readBasic [] rest).map fun (text, a) => (String.ofList text, past '"' a)
  | c :: rest =>
    if isBare c then
      let more := rest.takeWhile isBare
      some (String.ofList (c :: more), drop c rest (more.length + 1))
    else none

/-- A key, with the blanks behind it. -/
def readKey (s : List Char) : Option (Path × After s) :=
  match readPart s with
  | none => none
  | some (part, ⟨r₁, h₁⟩) =>
    match skip isGap r₁ with
    | ⟨r₂, h₂⟩ =>
      match expect '.' r₂ with
      | none => some ([part], chainUpTo h₁ ⟨r₂, h₂⟩)
      | some ⟨r₃, h₃⟩ =>
        match skip isGap r₃ with
        | ⟨r₄, h₄⟩ =>
          match readKey r₄ with
          | none => none
          | some (parts, a) =>
            some (part :: parts, chain h₁ (chainAfter h₂ (chain h₃ (chainAfter h₄ a))))
termination_by s.length

/-! ## Tables -/

/-- Changes the table at a path, making the tables on the way that are missing. With `throughLists`
a list on the way stands for its last item. -/
def updateAt (throughLists : Bool) (change : Entries → Option Entries) :
    Path → Entries → Option Entries
  | [], table => change table
  | part :: parts, table =>
    match table.lookup part with
    | none => (updateAt throughLists change parts []).map fun t =>
        Association.put table part (.table t)
    | some (.table inner) => (updateAt throughLists change parts inner).map fun t =>
        Association.put table part (.table t)
    | some (.list items) =>
      match throughLists, items.getLast? with
      | true, some (.table inner) => (updateAt throughLists change parts inner).map fun t =>
          Association.put table part (.list (items.dropLast ++ [.table t]))
      | _, _ => none
    | some _ => none

/-- Adds an entry whose key is new. -/
def addNew (key : String) (v : Datum) (table : Entries) : Option Entries :=
  match table.lookup key with
  | none => some (table ++ [(key, v)])
  | some _ => none

/-- Assigns a value to a path. -/
def assign (throughLists : Bool) (path : Path) (v : Datum) (table : Entries) : Option Entries :=
  updateAt throughLists (addNew (path.getLastD "") v) path.dropLast table

/-- Whether the value holds others, and is closed once it is written. -/
def isContainer : Datum → Bool
  | .list _ => true
  | .table _ => true
  | _ => false

/-- Whether a path lies at or below one of the closed ones. -/
def isClosed (closed : List Path) (path : Path) : Bool := closed.any fun p => p.isPrefixOf path

/-! ## Room -/

/-- What a value may lie inside of. -/
inductive Container where
  | array
  | inlineTable
  deriving DecidableEq, Repr

/-- The container that a text opens, if it opens one. -/
def Container.openedBy? : List Char → Option Container
  | '[' :: _ => some .array
  | '\x7b' :: _ => some .inlineTable
  | _ => none

/-- How many steps further in a container leads. -/
def Container.steps : Container → Nat
  | .array => 2
  | .inlineTable => 3

/-- The room that there is for values: whether one is read inside of containers, of which the
innermost comes first, given the text from the value on. -/
abbrev Room := List Container → List Char → Bool

/-- The room for values so many steps further in. -/
def Room.ofSteps (steps : Nat) : Room := fun inside s =>
  ((Container.openedBy? s).toList ++ inside).foldr (fun c taken => c.steps + taken) 0 ≤ steps

/-! ## Values -/

/-- The text behind blanks, line ends and comments, as they may stand in an array. -/
def skipLines (s : List Char) : Except Fault (UpTo s) :=
  match skip isGapOrNewline s with
  | ⟨r, h⟩ =>
    match skipComment r with
    | .error e => .error e
    | .ok ⟨r', h'⟩ =>
      if _shorter : r'.length < r.length then
        match skipLines r' with
        | .error e => .error e
        | .ok u => .ok (chainBoth h (chainBoth h' u))
      else .ok (chainBoth h ⟨r', h'⟩)
termination_by s.length

/-- A value that holds no others. -/
def readScalar (s : List Char) : Except Fault (Datum × After s) :=
  match s with
  | [] => .error .invalid
  | c :: rest =>
    if c = '"' ∨ c = '\'' then
      match readQuoted (c :: rest) with
      | none => .error .invalid
      | some (text, r) => .ok (.string (String.ofList text), r)
    else if "true".toList.isPrefixOf (c :: rest) then .ok (.bool true, drop c rest 4)
    else if "false".toList.isPrefixOf (c :: rest) then .ok (.bool false, drop c rest 5)
    else
      match readMoment (c :: rest) with
      | some (none, _) => .error .invalid
      | some (some m, count) => .ok (.moment m, drop c rest count)
      | none =>
        match readNumber (c :: rest) with
        | none => .error .invalid
        | some (.error e, _) => .error e
        | some (.ok v, count) => .ok (v, drop c rest count)

mutual

/-- A value inside of containers. -/
def readValue (room : Room) (inside : List Container) (s : List Char) :
    Except Fault (Datum × After s) :=
  if !room inside s then .error .tooDeep
  else
    match s with
    | '[' :: rest =>
      match skipLines rest with
      | .error e => .error e
      | .ok ⟨r, h⟩ =>
        match expect ']' r with
        | some a => .ok (.list [], past '[' (chainAfter h a))
        | none =>
          match readItems room (.array :: inside) [] r with
          | .error e => .error e
          | .ok (items, a) => .ok (.list items, past '[' (chainAfter h a))
    | '\x7b' :: rest =>
      match skip isGap rest with
      | ⟨r, h⟩ =>
        match expect '\x7d' r with
        | some a => .ok (.table [], past '\x7b' (chainAfter h a))
        | none =>
          match readEntries room (.inlineTable :: inside) [] [] r with
          | .error e => .error e
          | .ok (entries, a) => .ok (.table entries, past '\x7b' (chainAfter h a))
    | s => readScalar s
termination_by (s.length, 0)
decreasing_by
  all_goals simp only [List.length_cons] at *
  all_goals (apply Prod.Lex.left; omega)

/-- The items of an array that is not empty, behind its bracket; those read so far come last
first. A comma may stand behind the last item. -/
def readItems (room : Room) (inside : List Container) (acc : List Datum) (s : List Char) :
    Except Fault (List Datum × After s) :=
  match readValue room inside s with
  | .error e => .error e
  | .ok (v, ⟨r₁, h₁⟩) =>
    match skipLines r₁ with
    | .error e => .error e
    | .ok ⟨r₂, h₂⟩ =>
      match expect ']' r₂ with
      | some a => .ok ((v :: acc).reverse, chain h₁ (chainAfter h₂ a))
      | none =>
        match expect ',' r₂ with
        | none => .error .invalid
        | some ⟨r₃, h₃⟩ =>
          match skipLines r₃ with
          | .error e => .error e
          | .ok ⟨r₄, h₄⟩ =>
            match expect ']' r₄ with
            | some a =>
              .ok ((v :: acc).reverse, chain h₁ (chainAfter h₂ (chain h₃ (chainAfter h₄ a))))
            | none =>
              match readItems room inside (v :: acc) r₄ with
              | .error e => .error e
              | .ok (items, a) =>
                .ok (items, chain h₁ (chainAfter h₂ (chain h₃ (chainAfter h₄ a))))
termination_by (s.length, 1)
decreasing_by
  · apply Prod.Lex.right; omega
  · apply Prod.Lex.left; omega

/-- A key, an equals sign and a value. -/
def readAssignment (room : Room) (inside : List Container) (s : List Char) :
    Except Fault ((Path × Datum) × After s) :=
  match readKey s with
  | none => .error .invalid
  | some (path, ⟨r₁, h₁⟩) =>
    match expect '=' r₁ with
    | none => .error .invalid
    | some ⟨r₂, h₂⟩ =>
      match skip isGap r₂ with
      | ⟨r₃, h₃⟩ =>
        match readValue room inside r₃ with
        | .error e => .error e
        | .ok (v, a) => .ok ((path, v), chain h₁ (chain h₂ (chainAfter h₃ a)))
termination_by (s.length, 1)
decreasing_by
  apply Prod.Lex.left; omega

/-- The entries of an inline table that is not empty, behind its brace, given the paths closed so
far and the table so far. -/
def readEntries (room : Room) (inside : List Container) (closed : List Path) (table : Entries)
    (s : List Char) : Except Fault (Entries × After s) :=
  match readAssignment room inside s with
  | .error e => .error e
  | .ok ((path, v), ⟨r₁, h₁⟩) =>
    if isClosed closed path then .error .invalid
    else
      match assign false path v table with
      | none => .error .invalid
      | some table =>
        match skip isGap r₁ with
        | ⟨r₂, h₂⟩ =>
          match expect '\x7d' r₂ with
          | some a => .ok (table, chain h₁ (chainAfter h₂ a))
          | none =>
            match expect ',' r₂ with
            | none => .error .invalid
            | some ⟨r₃, h₃⟩ =>
              match skip isGap r₃ with
              | ⟨r₄, h₄⟩ =>
                let closed := if isContainer v then path :: closed else closed
                match readEntries room inside closed table r₄ with
                | .error e => .error e
                | .ok (entries, a) =>
                  .ok (entries, chain h₁ (chainAfter h₂ (chain h₃ (chainAfter h₄ a))))
termination_by (s.length, 2)
decreasing_by
  · apply Prod.Lex.right; omega
  · apply Prod.Lex.left; omega

end

end LedgerGateway.Toml
