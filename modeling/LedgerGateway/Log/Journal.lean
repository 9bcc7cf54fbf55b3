import LedgerGateway.Files.Folder
import LedgerGateway.Log.Formatter
import LedgerGateway.Log.LogFile
import LedgerGateway.Settings.Registry
import LedgerGateway.Text.Utf8

/-!
# The journal

One journal takes the log records of the whole program. It is set up once: it takes a level for all
loggers, keeps the loggers of the web server and its client quiet, and has at most one handler for
the console and one for a log file. Setting it up again changes nothing, unless it is reset first.

A record passes if its level reaches that of its logger, which is the level of the nearest name
above that has one. As long as there are no handlers, warnings go to the error output as they are.
A handler that fails reports on the error output and leaves the record to the next one; only data
that lie too deep, and what a highlighting console cannot draw, end the logging of a record.

* `setUp_configured` — a journal that is set up stays as it is.
-/

namespace LedgerGateway.Log

open Settings (Setting)

/-! ## What is wanted -/

/-- The settings of a journal. -/
structure Preferences where
  level : Setting
  format : Setting
  dateFormat : Setting
  highlighting : Setting
  fileOutput : Setting
  filePath : Setting
  deriving Repr

/-- The preferences among named settings. -/
def Preferences.ofSettings (settings : List (String × Setting)) : Preferences :=
  let named (name : String) : Setting := (settings.lookup name).getD (.text "" .null)
  { level := named "LOG_LEVEL"
    format := named "LOG_FORMAT"
    dateFormat := named "LOG_DATE_FORMAT"
    highlighting := named "LOG_CONSOLE_HIGHLIGHTING"
    fileOutput := named "LOG_FILE_OUTPUT"
    filePath := named "LOG_FILE_PATH" }

/-- The template that the preferences ask for. -/
def Preferences.chooseTemplate (h : Host) (p : Preferences) : Except FormatFault Chosen :=
  choose h p.format.default.text (if p.format.truth then p.format.toText else "")

/-- The layout of time stamps, which are in universal time. -/
def Preferences.dates (p : Preferences) : String :=
  (if p.dateFormat.toText = "" then p.dateFormat.default.text else p.dateFormat.toText) ++ " UTC"

/-- What the caller asks for. What is left open is as the preferences say. -/
structure Request where
  level : Option String
  file : Option String
  console : Bool
  fileOutput : Option Bool
  deriving Repr

/-- A text that is not empty, or else the text of a setting. -/
def given (asked : Option String) (setting : Setting) : String :=
  match asked with
  | none => setting.toText
  | some s => if s = "" then setting.toText else s

/-! ## The journal -/

/-- Where lines go. -/
inductive Sink where
  /-- A console that shows lines with their spans. -/
  | highlighted
  | console
  | file (place : Files.Place)
  deriving DecidableEq, Repr

/-- A sink, the level that records have to reach, and how their lines are made. -/
structure Handler where
  sink : Sink
  level : Int
  formatter : Formatter
  deriving DecidableEq, Repr

/-- A journal, and the files that it writes to. -/
structure Journal where
  /-- The level of all loggers that have none of their own. -/
  level : Int
  /-- The levels of single loggers. -/
  levels : List (String × Int)
  handlers : List Handler
  configured : Bool
  files : Files

namespace Journal

/-- A journal before it is set up. -/
def start (files : Files) : Journal := ⟨warningLevel, [], [], false, files⟩

/-- The levels that keep other parts quiet. -/
def quietLevels : List (String × Int) :=
  [("httpx", warningLevel), ("httpx._client", warningLevel), ("uvicorn.access", warningLevel),
   ("uvicorn.error", errorLevel), ("uvicorn", errorLevel), ("uvicorn.asgi", errorLevel)]

/-! ## Setting up -/

/-- Why setting up failed. -/
inductive SetupFault where
  | level (fault : LevelFault)
  | template (fault : FormatFault)
  /-- The log file could not be opened. -/
  | file (fault : Files.Fault)
  deriving DecidableEq, Repr

/-- The wording of a fault. -/
def SetupFault.message : SetupFault → String
  | .level fault => fault.message
  | .template fault => fault.message
  | .file fault => fault.message

/-- What setting up leaves behind. -/
structure Setup where
  journal : Journal
  /-- What was wrong with the template that was asked for. -/
  complaint : Option FormatFault
  fault : Option SetupFault

/-- The handler for the console, if one is wanted. -/
def consoleHandlers (p : Preferences) (q : Request) (level : Int) (f : Formatter) : List Handler :=
  if q.console then [⟨if p.highlighting.truth then .highlighted else .console, level, f⟩] else []

/-- Whether a log file is wanted. -/
def wantsFile (p : Preferences) (q : Request) : Bool := q.fileOutput.getD p.fileOutput.truth

/-- Adds the handler for the log file, if one is wanted. -/
def addFile (p : Preferences) (q : Request) (level : Int) (f : Formatter) (s : Journal) :
    Except SetupFault Journal :=
  if wantsFile p q then
    match s.files.openWithFolders (.ofText (given q.file p.filePath)) with
    | .error fault => .error (.file fault)
    | .ok (place, files) =>
      .ok { s with files, handlers := s.handlers ++ [⟨.file place, level, f⟩], configured := true }
  else .ok { s with configured := true }

/-- Sets a journal up on a host, unless that has been done. A fault leaves it as far as it came. -/
def setUp (h : Host) (p : Preferences) (q : Request) (s : Journal) : Setup :=
  if s.configured then ⟨s, none, none⟩
  else
    match levelOf (given q.level p.level) with
    | .error fault => ⟨s, none, some (.level fault)⟩
    | .ok level =>
      let s := { s with level, levels := quietLevels, handlers := [] }
      match p.chooseTemplate h with
      | .error fault => ⟨s, none, some (.template fault)⟩
      | .ok chosen =>
        let f : Formatter := ⟨chosen.template, some p.dates⟩
        let s := { s with handlers := consoleHandlers p q level f }
        match addFile p q level f s with
        | .error fault => ⟨s, chosen.complaint, some fault⟩
        | .ok s => ⟨s, chosen.complaint, none⟩

/-- Resets a journal and sets it up. -/
def setUpAgain (h : Host) (p : Preferences) (q : Request) (s : Journal) : Setup :=
  setUp h p q { s with configured := false }

/-- What the parts of the program ask for. -/
def usualRequest : Request := ⟨none, none, true, none⟩

/-- A journal that is set up stays as it is. -/
theorem setUp_configured (h : Host) (p : Preferences) (q : Request) {s : Journal}
    (set : s.configured = true) : setUp h p q s = ⟨s, none, none⟩ := by
  simp [setUp, set]

/-! ## Logging -/

/-- The name of the logger at the top. -/
def topLogger : String := "root"

/-- The name of the logger that a name asks for. -/
def loggerOf (name : String) : String := if name = "" then topLogger else name

/-- The names above a name, which is given backwards, from the nearest on. A dot directly in front
of another does not end a name. -/
def namesAbove (name : List Char) : List String :=
  let up := (name.dropWhile (· ≠ '.')).drop 1
  if _h : up = [] then []
  else String.ofList up.reverse :: namesAbove (up.drop 1)
termination_by name.length
decreasing_by
  have shorter : (name.dropWhile (· ≠ '.')).length ≤ name.length :=
    (List.dropWhile_sublist _).length_le
  have : 0 < up.length := List.length_pos_iff.2 ‹_›
  simp only [up, List.length_drop] at this ⊢
  omega

/-- The level that records of a logger have to reach. -/
def levelFor (s : Journal) (logger : String) : Int :=
  match (logger :: namesAbove logger.toList.reverse).findSome? fun name => s.levels.lookup name with
  | some level => level
  | none => s.level

/-- Whether a record passes. -/
def passes (s : Journal) (r : Record) : Bool := 0 < r.level && s.levelFor r.logger ≤ r.level

/-- Why a handler did not write a line. -/
inductive HandlingFault where
  /-- The line cannot be made. -/
  | line (fault : FormatFault)
  /-- The log file cannot make way for another. -/
  | file (fault : LogFile.Fault)
  deriving DecidableEq, Repr

/-- The wording of a fault. -/
def HandlingFault.message : HandlingFault → String
  | .line fault => fault.message
  | .file fault => fault.message

/-- What logging a record depends on, beside the journal. -/
structure System extends Bounds where
  /-- Whether an empty log file makes way for another, too. -/
  leavesEmpty : Bool
  /-- What the error output shows of a fault of a handler, up to the place where the record was
  made; if there is nothing to show, faults are not reported. -/
  trace? : Option (Record → HandlingFault → List Char)

/-- What logging a record leaves behind. -/
structure Emitted where
  files : Files
  /-- What the console shows. -/
  console : List Char
  /-- What the error output shows. -/
  errors : List Char
  /-- What ended the logging of the record. -/
  fault : Option FormatFault

/-- What a report tells of the record itself. -/
def told : String := "Message: %r\nArguments: %s\n"

/-- What a report has in its place if the record cannot be told. -/
def untold : String :=
  "Unable to print the message and arguments - possible formatting error.\n" ++
    "Use the traceback above to help find the error.\n"

/-- The report of a fault of a handler, and the fault that may end it. -/
def report (y : System) (r : Record) (fault : HandlingFault) : List Char × Option FormatFault :=
  match y.trace? with
  | none => ([], none)
  | some trace =>
    let front := "--- Logging error ---\n".toList ++ trace r fault
    let values := Template.Supply.ofList [r.what, Record.argumentField r.arguments]
    match Template.fill y.toBounds told values with
    | .ok pieces => (front ++ Piece.render pieces, none)
    | .error fault =>
      if fault.family = .recursion then (front, some (.filling fault))
      else (front ++ untold.toList, none)

/-- A handler has failed: its fault is reported. -/
def Emitted.failed (y : System) (r : Record) (fault : HandlingFault) (e : Emitted) : Emitted :=
  let (shown, fault) := report y r fault
  { e with errors := e.errors ++ shown, fault }

/-- A line cannot be made for an output: data that lie too deep end the logging of the record, every
other fault is reported. -/
def Emitted.unmade (y : System) (r : Record) (fault : FormatFault) (e : Emitted) : Emitted :=
  if fault.family = .recursion then { e with fault := some fault }
  else e.failed y r (.line fault)

/-- Draws the line of a record on a highlighting console, which takes a date. The lines that are
drawn are not written. -/
def drawLine (y : System) (f : Formatter) (r : Record) (e : Emitted) : Emitted :=
  match f.line y.toBounds r with
  | .error fault => { e with fault := some fault }
  | .ok _ =>
    match TimeStamp.checkYear r.time with
    | .error fault => { e with fault := some (.time fault) }
    | .ok _ => e

/-- Writes the line of a record on a console. -/
def showLine (y : System) (f : Formatter) (r : Record) (e : Emitted) : Emitted :=
  match f.line y.toBounds r with
  | .error fault => e.unmade y r fault
  | .ok line => { e with console := e.console ++ line ++ ['\n'] }

/-- Writes the line of a record at the end of a file. -/
def writeLine (y : System) (f : Formatter) (place : Files.Place) (r : Record) (e : Emitted) :
    Emitted :=
  match f.line y.toBounds r with
  | .error fault => e.failed y r (.line fault)
  | .ok line =>
    { e with files := e.files.append place (Text.Utf8.encode (String.ofList (line ++ ['\n']))) }

/-- Writes the line of a record into a log file. The line is made before, to see whether the file
has to make way for another, and that keeps the report of the record. -/
def fileLine (y : System) (f : Formatter) (place : Files.Place) (r : Record) (e : Emitted) :
    Emitted :=
  if !LogFile.isRegular e.files place then writeLine y f place r e
  else
    match f.line y.toBounds r with
    | .error fault => e.failed y r (.line fault)
    | .ok line =>
      let (files, fault) := LogFile.makeWay y.leavesEmpty e.files place (line.length + 1)
      match fault with
      | some fault => Emitted.failed y r.reported (.file fault) { e with files }
      | none => writeLine y f place r.reported { e with files }

/-- Hands a record to a handler. -/
def deliver (y : System) (h : Handler) (r : Record) (e : Emitted) : Emitted :=
  match h.sink with
  | .highlighted => drawLine y h.formatter r e
  | .console => showLine y h.formatter r e
  | .file place => fileLine y h.formatter place r e

/-- The record behind a handler, which keeps the report of a record whose line is made. -/
def recordBehind (y : System) (h : Handler) (r : Record) : Record :=
  match h.formatter.line y.toBounds r with
  | .error _ => r
  | .ok _ => r.reported

/-- Hands a record to handlers in turn, until one ends the logging of it. -/
def hand (y : System) (r : Record) : List Handler → Emitted → Emitted
  | [], e => e
  | h :: rest, e =>
    if r.level < h.level then hand y r rest e
    else
      let e := deliver y h r e
      if e.fault.isSome then e else hand y (recordBehind y h r) rest e

/-- The formatter when there are no handlers. -/
def bareFormatter : Formatter := ⟨"%(message)s", none⟩

/-- Shows a warning on the error output when there are no handlers. Nothing is taken out of it. -/
def lastResort (y : System) (r : Record) (e : Emitted) : Emitted :=
  if r.level < warningLevel then e
  else
    match bareFormatter.text y.toBounds r with
    | .error fault => e.unmade y r fault
    | .ok text => { e with errors := e.errors ++ text ++ ['\n'] }

/-- Logs a record. -/
def log (y : System) (s : Journal) (r : Record) : Emitted :=
  let nothing : Emitted := ⟨s.files, [], [], none⟩
  if !s.passes r then nothing
  else
    match r.checkMade with
    | .error fault => { nothing with fault := some (.filling fault) }
    | .ok _ =>
      if s.handlers.isEmpty then lastResort y r nothing
      else hand y r s.handlers nothing

end Journal

end LedgerGateway.Log
