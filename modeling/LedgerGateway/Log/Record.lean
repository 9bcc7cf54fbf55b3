import LedgerGateway.Log.Level
import LedgerGateway.Log.Template

/-!
# Log records

A record says who logs, how serious it is, when it happened and what: a datum, whose text is a
template if there are arguments to fill it with. A table as the only argument gives the values by
key. Beside that a record may tell of a failure, and of the place in the program where it was made.
The fields of a record are what layouts of log lines may name.
-/

namespace LedgerGateway.Log

open Decimal (Binary64 Ratio)

/-- Where in a program a record was made. -/
structure Origin where
  path : String
  file : String
  unit : String
  line : Int
  function : Option String
  process : Int
  thread : Int
  threadName : String
  /-- The thousandths of a second since the program was started. -/
  uptime : Binary64
  deriving Repr

/-- Where and when the program runs: what bounds the texts that it makes, the numbers that the
system gives to its process and to the thread at work, and the time. -/
structure Host extends Bounds where
  process : Int
  thread : Int
  now : Binary64
  deriving Repr

/-- The origin of a record that was made in no particular place. -/
def Origin.unknown (h : Host) : Origin where
  path := ""
  file := ""
  unit := ""
  line := 0
  function := none
  process := h.process
  thread := h.thread
  threadName := "MainThread"
  uptime := .zero false

/-- A failure that was caught: the data that it came with, and what is reported of it. -/
structure Caught where
  data : List Datum
  report : String
  deriving Repr

/-- A log record. -/
structure Record where
  logger : String
  level : Int
  /-- What is logged. -/
  what : Datum
  arguments : List Datum
  /-- When it happened, in seconds since the beginning of 1970. -/
  time : Binary64
  /-- The thousandths of a second that are shown. -/
  millis : Int
  /-- The report of a failure, or the empty text. -/
  failure : String
  /-- Where the program was, or the empty text. -/
  stack : String
  /-- The failure that was caught, if any; it is reported on if there is no report yet. -/
  caught : Option Caught
  origin : Origin
  deriving Repr

namespace Record

/-- The thousandths of a second in a time: its fraction times a thousand, as a floating point number
and without what is behind its point. -/
def millisOf : Binary64 → Int
  | .finite negative mantissa exponent =>
    let r := Binary64.magnitude mantissa exponent
    let fraction : Ratio := ⟨r.num % r.den * 1000, r.den⟩
    ((Binary64.ofRatio negative fraction).truncate?).getD 0
  | _ => 0

/-- Checks that a time can be that of a record, which needs its whole seconds. -/
def checkTime : Binary64 → Except Template.Fault Unit
  | .finite _ _ _ => .ok ()
  | .infinite _ => .error .infiniteInteger
  | .nan => .error .notANumber

/-- A record without report and stack, made on a host, with the thousandths of its time. -/
def plain (h : Host) (logger : String) (level : Int) (what : Datum) (arguments : List Datum) :
    Record :=
  ⟨logger, level, what, arguments, h.now, millisOf h.now, "", "", none, .unknown h⟩

/-- Checks that a record can be made: the name of its level is written, and its time has whole
seconds. -/
def checkMade (r : Record) : Except Template.Fault Unit :=
  if Decimal.isShort r.level then checkTime r.time else .error (.unwritable .tooManyDigits)

/-- What is reported of a failure, or the empty text. -/
def report (r : Record) : String :=
  if r.failure = "" then (r.caught.map Caught.report).getD "" else r.failure

/-- The record once it was laid out: what is reported of its failure is kept. -/
def reported (r : Record) : Record := { r with failure := r.report }

@[simp] theorem report_reported (r : Record) : r.reported.report = r.report := by
  show (if r.report = "" then (r.caught.map Caught.report).getD "" else r.report) = r.report
  by_cases empty : r.report = ""
  · have own : r.failure = "" := by
      by_cases own : r.failure = ""
      · exact own
      · rwa [report, if_neg own] at empty
    rw [if_pos empty, report, if_pos own]
  · rw [if_neg empty]

@[simp] theorem reported_reported (r : Record) : r.reported.reported = r.reported := by
  rw [reported, report_reported]
  rfl

/-- What fills the text in: a table that is the only argument, or else the list of arguments. -/
def supply : List Datum → Template.Supply
  | [.table (entry :: rest)] => .ofTable (entry :: rest)
  | arguments => .ofList arguments

/-- The message: the text, filled in if there are arguments. -/
def message (b : Bounds) (r : Record) : Except Template.Fault (List Char) :=
  match Template.textOf b.depth r.what with
  | .error fault => .error fault
  | .ok text =>
    if r.arguments.isEmpty then .ok text
    else (Template.fill b (String.ofList text) (supply r.arguments)).map Piece.render

/-- The arguments as a field. -/
def argumentField : List Datum → Datum
  | [.table (entry :: rest)] => .table (entry :: rest)
  | arguments => .tuple arguments

/-- An empty text is no text. -/
def optional (s : String) : Datum := if s = "" then .null else .string s

/-- The fields of a record, its message and its time stamp included. -/
def fields (r : Record) (message : List Char) (stamp : Option String) : List (String × Datum) :=
  let shown := match stamp with
    | some s => [("asctime", Datum.string s)]
    | none => []
  let caught := match r.caught with
    | some c => Datum.tuple c.data
    | none => .null
  let function := match r.origin.function with
    | some name => Datum.string name
    | none => .null
  [("name", .string r.logger), ("msg", r.what), ("args", argumentField r.arguments),
   ("levelname", .string (levelName r.level)), ("levelno", .int r.level),
   ("pathname", .string r.origin.path), ("filename", .string r.origin.file),
   ("module", .string r.origin.unit), ("exc_info", caught), ("exc_text", optional r.failure),
   ("stack_info", optional r.stack), ("lineno", .int r.origin.line), ("funcName", function),
   ("created", .float r.time), ("msecs", .float (Binary64.ofInt r.millis)),
   ("relativeCreated", .float r.origin.uptime), ("thread", .int r.origin.thread),
   ("threadName", .string r.origin.threadName), ("processName", .string "MainProcess"),
   ("process", .int r.origin.process), ("message", .string (String.ofList message))] ++ shown

end Record

end LedgerGateway.Log
