import LedgerGateway.BlockKey

/-!
# Computations and what they leave behind

A computation that answers a request leaves two kinds of event: records for the log, and the
queries it put to the ledger. A traced value carries them in order beside it, so two computations
can be compared by their answers and by their events.
-/

namespace LedgerGateway

/-- How serious a log record is. -/
inductive Severity where
  | debug
  | info
  | warning
  | error
  deriving DecidableEq, Repr

/-- The name of a severity. -/
def Severity.name : Severity → String
  | .debug => "DEBUG"
  | .info => "INFO"
  | .warning => "WARNING"
  | .error => "ERROR"

/-- A log record as it is written by the program's parts. -/
structure LogEntry where
  severity : Severity
  /-- The part that wrote it. -/
  logger : String
  message : String
  deriving DecidableEq, Repr

/-- A query to the ledger. -/
inductive LedgerQuery where
  | account (address : String) (key : BlockKey)
  | storage (address position : String) (key : BlockKey)
  deriving DecidableEq, Repr

/-- What a computation leaves behind. -/
inductive Event where
  | logged (entry : LogEntry)
  | queried (query : LedgerQuery)
  deriving DecidableEq, Repr

/-- A value and the events of the computation that made it, in order. -/
@[ext]
structure Traced (α : Type) where
  value : α
  events : List Event

namespace Traced

variable {α β : Type}

/-- A value without events. -/
def just (a : α) : Traced α := ⟨a, []⟩

/-- One computation after another. -/
def andThen (t : Traced α) (f : α → Traced β) : Traced β :=
  let next := f t.value
  ⟨next.value, t.events ++ next.events⟩

instance : Monad Traced where
  pure := just
  bind := andThen

@[simp] theorem value_pure (a : α) : (pure a : Traced α).value = a := rfl

@[simp] theorem events_pure (a : α) : (pure a : Traced α).events = [] := rfl

@[simp] theorem value_bind (t : Traced α) (f : α → Traced β) :
    (t >>= f).value = (f t.value).value := rfl

@[simp] theorem events_bind (t : Traced α) (f : α → Traced β) :
    (t >>= f).events = t.events ++ (f t.value).events := rfl

/-- Writes a log record. -/
def log (severity : Severity) (logger message : String) : Traced Unit :=
  ⟨(), [.logged ⟨severity, logger, message⟩]⟩

/-- Notes a query to the ledger. -/
def queried (query : LedgerQuery) : Traced Unit := ⟨(), [.queried query]⟩

/-- The log records among the events. -/
def entries (t : Traced α) : List LogEntry :=
  t.events.filterMap fun
    | .logged entry => some entry
    | .queried _ => none

/-- The ledger queries among the events. -/
def queries (t : Traced α) : List LedgerQuery :=
  t.events.filterMap fun
    | .logged _ => none
    | .queried query => some query

end Traced

end LedgerGateway
