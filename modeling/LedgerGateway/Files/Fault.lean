import LedgerGateway.Text.Quoted

/-!
# Faults of paths

A path may lead nowhere, or to something that it should not lead to. The wording of a fault has the
number that the system gives it, and names the path.
-/

namespace LedgerGateway.Files

/-- What is wrong with a path. -/
inductive Trouble where
  /-- Nothing is there. -/
  | missing
  /-- Something is there already. -/
  | taken
  /-- The way goes on behind a file. -/
  | notFolder
  /-- A folder is there. -/
  | isFolder
  /-- The path or a part of it is too long. -/
  | tooLong
  /-- The path holds a character that no path may hold. -/
  | nul
  deriving DecidableEq, Repr

/-- The wording of a trouble with a path. -/
def Trouble.message (path : String) : Trouble → String
  | .missing => s!"[Errno 2] No such file or directory: {Text.quoted path}"
  | .taken => s!"[Errno 17] File exists: {Text.quoted path}"
  | .notFolder => s!"[Errno 20] Not a directory: {Text.quoted path}"
  | .isFolder => s!"[Errno 21] Is a directory: {Text.quoted path}"
  | .tooLong => s!"[Errno 36] File name too long: {Text.quoted path}"
  | .nul => "embedded null byte"

/-- A trouble with a path. -/
structure Fault where
  trouble : Trouble
  path : String
  deriving DecidableEq, Repr

/-- The wording of a fault. -/
def Fault.message (f : Fault) : String := f.trouble.message f.path

end LedgerGateway.Files
