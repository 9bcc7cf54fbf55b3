import LedgerGateway.Log.Journal

/-!
# The log of a run

A run sets its log up as soon as it knows the level. The level may be any datum: one that counts as
false leaves the level open, and every other one stands for its text, if that can be written.
-/

namespace LedgerGateway.Log

/-- What a run needs for its log, beside the level. -/
structure Startup where
  preferences : Preferences
  journal : Journal
  host : Host

/-- Why the log of a run was not set up. -/
inductive StartFault where
  /-- The text of the level cannot be written. -/
  | noText (fault : Datum.LiteralFault)
  | setup (fault : Journal.SetupFault)
  deriving DecidableEq, Repr

/-- The wording of a fault. -/
def StartFault.message : StartFault → String
  | .noText fault => fault.message
  | .setup fault => fault.message

/-- The text that a level stands for, with room for data down to the given depth. -/
def levelText (depth : Nat) (level : Datum) : Except StartFault (Option String) :=
  if level.truth then
    match level.textFault? depth with
    | some fault => .error (.noText fault)
    | none => .ok (some level.text)
  else .ok none

/-- The journal that is set up with a level. -/
def Startup.setUp (depth : Nat) (s : Startup) (level : Datum) : Except StartFault Journal :=
  match levelText depth level with
  | .error fault => .error fault
  | .ok text =>
    let q : Request := { Journal.usualRequest with level := text }
    let setup := s.journal.setUpAgain s.host s.preferences q
    match setup.fault with
    | some fault => .error (.setup fault)
    | none => .ok setup.journal

end LedgerGateway.Log
