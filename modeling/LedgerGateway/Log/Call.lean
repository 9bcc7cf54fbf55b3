import LedgerGateway.Log.Journal

/-!
# Calls on the journal

Every part of the program asks the journal for a logger by name, and with that sets it up if nobody
has done so before. A part that wants something special sets the journal up with a request of its
own; once the flags of a command are known, the journal is reset and set up again.

* `serve` — what a call leaves behind.
-/

namespace LedgerGateway.Log.Journal

/-- What is left behind when somebody asks for a logger. -/
def forLogger (h : Host) (p : Preferences) (s : Journal) : Setup :=
  if s.configured then ⟨s, none, none⟩ else setUp h p usualRequest s

/-- A call on the journal, where and when the program runs. -/
inductive Call where
  | logger (name : String) (h : Host)
  | setUp (q : Request) (h : Host)
  | setUpAgain (q : Request) (h : Host)
  deriving Repr

namespace Call

/-- What the call asks for. -/
def request : Call → Request
  | .logger _ _ => usualRequest
  | .setUp q _ => q
  | .setUpAgain q _ => q

/-- Where and when the call is made. -/
def host : Call → Host
  | .logger _ h => h
  | .setUp _ h => h
  | .setUpAgain _ h => h

/-- Whether the call resets the journal. -/
def resets : Call → Bool
  | .setUpAgain _ _ => true
  | _ => false

/-- The name of the logger that the call gives. -/
def logger? : Call → Option String
  | .logger name _ => some (loggerOf name)
  | _ => none

end Call

/-- What a call leaves behind. -/
def serve (p : Preferences) (s : Journal) : Call → Setup
  | .logger _ h => s.forLogger h p
  | .setUp q h => s.setUp h p q
  | .setUpAgain q h => s.setUpAgain h p q

end LedgerGateway.Log.Journal
