import LedgerGateway.Toml.Value

/-!
# TOML documents

A document is a list of statements, one a line: an assignment, the head of a table, or the head of
the next item in a list of tables. The statements are read first and then carried out in turn, up
to the first that is refused. A table may be declared once, and not at all after a dotted key made
it in an earlier section; what a value holds may not be changed afterwards.
-/

namespace LedgerGateway.Toml

open Text.Unread

/-- A line of a document. -/
inductive Statement where
  | assign (path : Path) (v : Datum)
  | table (path : Path)
  | item (path : Path)
  deriving Repr

/-! ## Reading -/

/-- The text with every line that ends in a carriage return and a line feed ended by the latter
alone. -/
def plainNewlines : List Char → List Char
  | '\r' :: '\n' :: rest => '\n' :: plainNewlines rest
  | c :: rest => c :: plainNewlines rest
  | [] => []

/-- The head of a table or of an item, behind its opening brackets. -/
def readHead (s : List Char) : Except Fault (Path × After s) :=
  match skip isGap s with
  | ⟨r₁, h₁⟩ =>
    match readKey r₁ with
    | none => .error .invalid
    | some (path, ⟨r₂, h₂⟩) =>
      match expect ']' r₂ with
      | none => .error .invalid
      | some a => .ok (path, chainAfter h₁ (chain h₂ a))

/-- A statement. -/
def readStatement (room : Room) (s : List Char) : Except Fault (Statement × After s) :=
  match s with
  | '[' :: '[' :: rest =>
    match readHead rest with
    | .error e => .error e
    | .ok (path, ⟨r, h⟩) =>
      match expect ']' r with
      | none => .error .invalid
      | some a => .ok (.item path, past '[' (past '[' (chain h a)))
  | '[' :: rest =>
    match readHead rest with
    | .error e => .error e
    | .ok (path, a) => .ok (.table path, past '[' a)
  | s =>
    match readAssignment room [] s with
    | .error e => .error e
    | .ok ((path, v), r) => .ok (.assign path v, r)

/-- The text behind blanks, a comment and the end of the line. -/
def endStatement (s : List Char) : Except Fault (UpTo s) :=
  match skip isGap s with
  | ⟨r₁, h₁⟩ =>
    match skipComment r₁ with
    | .error e => .error e
    | .ok ⟨[], _⟩ => .ok (atEnd s)
    | .ok ⟨c :: r₂, h₂⟩ =>
      if c = '\n' then .ok (chainBoth h₁ (chainBoth h₂ (weaken (tail c r₂))))
      else .error .invalid

/-- The statements of a text, and the fault at which reading stopped, if it did not reach the
end. -/
def readStatements (room : Room) (s : List Char) : List Statement × Option Fault :=
  match skip isGap s with
  | ⟨[], _⟩ => ([], none)
  | ⟨c :: rest, _⟩ =>
    if c = '\n' then readStatements room rest
    else if c = '#' then
      match readComment rest with
      | none => ([], some .invalid)
      | some ⟨r, _⟩ => readStatements room r
    else if c = '[' ∨ beginsKey c then
      match readStatement room (c :: rest) with
      | .error e => ([], some e)
      | .ok (statement, ⟨r, _⟩) =>
        match endStatement r with
        | .error e => ([statement], some e)
        | .ok ⟨r', _⟩ =>
          let (statements, fault) := readStatements room r'
          (statement :: statements, fault)
    else ([], some .invalid)
termination_by s.length
decreasing_by all_goals simp only [List.length_cons] at *; omega

/-! ## Carrying out -/

/-- A document while its statements are carried out. -/
structure Draft where
  /-- What has been assigned. -/
  root : Entries
  /-- The paths of values that hold others. -/
  closed : List Path
  /-- The paths that were declared as tables. -/
  declared : List Path
  /-- The paths that dotted keys made since the last head. -/
  dotted : List Path
  /-- The path of the last head. -/
  header : Path

/-- The document before its first statement. -/
def Draft.empty : Draft := ⟨[], [], [], [], []⟩

/-- The paths of the tables that a dotted key passes through. -/
def passedPaths (header path : Path) : List Path :=
  ((List.range path.length).drop 1).map fun n => header ++ path.take n

/-- Adds an item to the list of tables of a key. -/
def addItem (key : String) (table : Entries) : Option Entries :=
  match table.lookup key with
  | none => some (table ++ [(key, .list [.table []])])
  | some (.list items) => some (Association.put table key (.list (items ++ [.table []])))
  | some _ => none

/-- Begins the section of a head: what dotted keys made before is declared now. -/
def Draft.beginSection (d : Draft) : Draft :=
  { d with declared := d.dotted ++ d.declared, dotted := [] }

/-- Carries out a statement, unless it is refused. -/
def Draft.apply (d : Draft) : Statement → Option Draft
  | .table path =>
    let d := d.beginSection
    if d.declared.contains path || isClosed d.closed path then none
    else
      (updateAt true some path d.root).map fun root =>
        { d with root, declared := path :: d.declared, header := path }
  | .item path =>
    let d := d.beginSection
    if isClosed d.closed path then none
    else
      let stays (p : Path) : Bool := !path.isPrefixOf p
      (updateAt true (addItem (path.getLastD "")) path.dropLast d.root).map fun root =>
        { d with
          root
          closed := d.closed.filter stays
          declared := path :: d.declared.filter stays
          header := path }
  | .assign path v =>
    let passed := passedPaths d.header path
    if passed.any d.declared.contains || isClosed d.closed (d.header ++ path.dropLast) then none
    else
      (assign true (d.header ++ path) v d.root).map fun root =>
        { d with
          root
          closed := if isContainer v then (d.header ++ path) :: d.closed else d.closed
          dotted := passed ++ d.dotted }

/-- The table of a text. -/
def read (room : Room) (text : List Char) : Except Fault Entries :=
  let (statements, fault) := readStatements room (plainNewlines text)
  match statements.foldlM Draft.apply Draft.empty with
  | none => .error .invalid
  | some d =>
    match fault with
    | some e => .error e
    | none => .ok d.root

end LedgerGateway.Toml
