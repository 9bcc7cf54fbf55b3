import LedgerGateway.Log.Record
import LedgerGateway.Log.TerminalSafe
import LedgerGateway.Log.TimeStamp
import LedgerGateway.Text.Search
import LedgerGateway.Text.Word

/-!
# Log lines

A formatter makes the line of a record: it fills the fields of the record into a template, puts the
report of a failure and the stack on lines of their own, and takes out what would steer a terminal.

A template has to name at least one field. Whether a template can be used is found out by making the
line of a sample record; one that cannot be used gives way to the built-in one.
-/

namespace LedgerGateway.Log

/-- Why there is no line for a record. -/
inductive FormatFault where
  | noField (template : String)
  | unknownField (key : String)
  | filling (fault : Template.Fault)
  | time (fault : TimeStamp.Fault)
  deriving DecidableEq, Repr

/-- The family of a fault. -/
def FormatFault.family : FormatFault → FaultFamily
  | .noField _ => .value
  | .unknownField _ => .value
  | .filling fault => fault.family
  | .time fault => fault.family

/-- The wording of a fault. -/
def FormatFault.message : FormatFault → String
  | .noField template => s!"Invalid format '{template}' for '%' style"
  | .unknownField key => s!"Formatting field not found in record: {Text.quoted key}"
  | .filling fault => fault.message
  | .time fault => fault.message

/-! ## Templates that name a field -/

/-- The letters that end a directive, in either case, the letters that equal one of them when case
is put aside included. -/
def isDirectiveLetter (c : Char) : Bool :=
  "diouxefgcrsa%".toList.contains c.toLower || "\u0130\u0131\u017f".toList.contains c

/-- Whether the character is a flag of a directive. -/
def isFlag (c : Char) : Bool := "#0+ -".toList.contains c

/-- The text behind an asterisk or a number, if one comes first. -/
def skipAmount : List Char → List Char
  | '*' :: rest => rest
  | s => s.dropWhile fun c => (Text.digitValue? c).isSome

/-- Whether a directive of a field goes on so behind its percent sign. -/
def namesField : List Char → Bool
  | '(' :: rest =>
    let word := rest.takeWhile Text.isWord
    match rest.drop word.length with
    | ')' :: rest =>
      let rest := skipAmount (rest.dropWhile isFlag)
      let rest := match rest with
        | '.' :: tail => if (skipAmount tail).length < tail.length then skipAmount tail else rest
        | _ => rest
      !word.isEmpty && rest.head?.any isDirectiveLetter
    | _ => false
  | _ => false

/-- Whether a template has a directive of a field. -/
def hasField : List Char → Bool
  | [] => false
  | c :: rest => (c = '%' && namesField rest) || hasField rest

/-! ## Formatters -/

/-- How lines are made. -/
structure Formatter where
  template : String
  /-- The layout of time stamps; without one they have their plain form. -/
  dates : Option String
  deriving DecidableEq, Repr

namespace Formatter

/-- A formatter of a template and a layout of time stamps. An empty template stands for the message
alone, an empty layout for none. -/
def make (template dates : String) : Except FormatFault Formatter :=
  let template := if template = "" then "%(message)s" else template
  if hasField template.toList then .ok ⟨template, if dates = "" then none else some dates⟩
  else .error (.noField template)

/-- The time stamp of a record, if the template asks for it. -/
def stamp (f : Formatter) (r : Record) : Except FormatFault (Option String) :=
  if !Text.occurs "%(asctime)".toList f.template.toList then .ok none
  else
    let made := match f.dates with
      | none => TimeStamp.plain r.time r.millis
      | some layout => TimeStamp.ofLayout layout r.time
    (made.mapError .time).map some

/-- A text with another on a new line behind it, unless that one is empty. -/
def onNewLine (text addition : List Char) : List Char :=
  if addition.isEmpty then text
  else if text.getLast? = some '\n' then text ++ addition
  else text ++ '\n' :: addition

theorem length_le_onNewLine (text addition : List Char) :
    text.length ≤ (onNewLine text addition).length := by
  rw [onNewLine]
  split
  · exact Nat.le_refl _
  · split
    · simp
    · simp

/-- A fault in filling the fields into a template. -/
def fieldFault : Template.Fault → FormatFault
  | .missingKey key => .unknownField key
  | fault => .filling fault

/-- What the template makes of a record. -/
def pieces (b : Bounds) (f : Formatter) (r : Record) : Except FormatFault (List Piece) :=
  match r.message b with
  | .error fault => .error (.filling fault)
  | .ok message =>
    match f.stamp r with
    | .error fault => .error fault
    | .ok stamp =>
      (Template.fill b f.template (.ofTable (r.fields message stamp))).mapError fieldFault

/-- What the template makes of a record, with the report and the stack on lines of their own. -/
def whole (r : Record) (pieces : List Piece) : List Char :=
  onNewLine (onNewLine (Piece.render pieces) r.report.toList) r.stack.toList

/-- The text of a record is at least as long as what the template makes of it. -/
theorem sizeOfAll_le_whole (r : Record) (pieces : List Piece) :
    Piece.sizeOfAll pieces ≤ (whole r pieces).length := by
  rw [← Piece.render_length]
  exact Nat.le_trans (length_le_onNewLine _ _) (length_le_onNewLine _ _)

/-- The text of a record. -/
def text (b : Bounds) (f : Formatter) (r : Record) : Except FormatFault (List Char) :=
  match f.pieces b r with
  | .error fault => .error fault
  | .ok pieces =>
    if b.room < (whole r pieces).length then .error (.filling .tooLong) else .ok (whole r pieces)

/-- A template that is filled in, if there is room for it, gives the text of a record, if there is
room for that. -/
theorem text_of_fill {b : Bounds} {f : Formatter} {r : Record} {message : List Char}
    {stamp : Option String} {made : List Piece} (own : r.message b = .ok message)
    (stamped : f.stamp r = .ok stamp)
    (filled : Template.fill b f.template (.ofTable (r.fields message stamp)) =
      if b.room < Piece.sizeOfAll made then .error .tooLong else .ok made) :
    f.text b r = if b.room < (whole r made).length then .error (.filling .tooLong)
      else .ok (whole r made) := by
  have size := sizeOfAll_le_whole r made
  simp only [text, pieces, own, stamped, filled]
  by_cases long : b.room < Piece.sizeOfAll made
  · rw [if_pos long, if_pos (Nat.lt_of_lt_of_le long size)]
    rfl
  · rw [if_neg long]
    rfl

/-- The line of a record: safe to show on a terminal. -/
def line (b : Bounds) (f : Formatter) (r : Record) : Except FormatFault (List Char) :=
  (f.text b r).map TerminalSafe.sanitize

end Formatter

/-! ## Checking a template -/

/-- The record that templates are tried with. -/
def sampleRecord (h : Host) : Record := .plain h "test" infoLevel (.string "test") []

/-- The pieces of the line of the sample record. -/
def samplePieces (h : Host) (template : String) : Except FormatFault (List Piece) :=
  match Formatter.make template "" with
  | .error fault => .error fault
  | .ok f =>
    match Record.checkTime h.now with
    | .error fault => .error (.filling fault)
    | .ok _ => f.pieces h.toBounds (sampleRecord h)

/-- What a template is found to be good for. -/
inductive Verdict where
  | usable
  | unusable (fault : FormatFault)
  deriving DecidableEq, Repr

/-- Tries a template with the sample record. A fault that is none of the template stays a fault. -/
def tryTemplate (h : Host) (template : String) : Except FormatFault Verdict :=
  match samplePieces h template with
  | .ok _ => .ok .usable
  | .error fault =>
    if fault.family.isOfTemplate then .ok (.unusable fault) else .error fault

/-- A template to use, and what was wrong with the one that was asked for. -/
structure Chosen where
  template : String
  complaint : Option FormatFault
  deriving DecidableEq, Repr

/-- The template that was asked for if it can be used, or else the built-in one. Asking for none is
no fault. -/
def choose (h : Host) (builtin template : String) : Except FormatFault Chosen :=
  if template = "" then .ok ⟨builtin, none⟩
  else
    match tryTemplate h template with
    | .error fault => .error fault
    | .ok .usable => .ok ⟨template, none⟩
    | .ok (.unusable fault) => .ok ⟨builtin, some fault⟩

/-- The name under which the log complains about a template. -/
def complaintLogger : String := "seth_rpc.logger"

/-- The complaint about a template, as a line for the error output. -/
def complaintLine (fault : FormatFault) : String :=
  s!"{complaintLogger} - Validation Error: {fault.message}. Using default.\n"

end LedgerGateway.Log
