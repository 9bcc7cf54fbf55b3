/-!
# Families of faults

What can go wrong when a log line is made falls into families. A check of a template takes faults of
values, kinds and keys for faults of the template; the others are not its own.
-/

namespace LedgerGateway.Log

/-- The families of faults. -/
inductive FaultFamily where
  /-- A value that does not do. -/
  | value
  /-- A value of a kind that does not do. -/
  | kind
  /-- A key that is not there. -/
  | key
  /-- A number out of range. -/
  | overflow
  /-- What the system cannot represent. -/
  | system
  /-- A text that is too long to be made. -/
  | memory
  /-- Data that lie too deep inside others. -/
  | recursion
  deriving DecidableEq, Repr

/-- Whether a fault of the family is one of the template that was filled in. -/
def FaultFamily.isOfTemplate : FaultFamily → Bool
  | .value => true
  | .kind => true
  | .key => true
  | _ => false

end LedgerGateway.Log
