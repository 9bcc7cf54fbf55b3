import LedgerGateway.Config.Sections
import LedgerGateway.Files.Basic
import LedgerGateway.Text.Utf8
import LedgerGateway.Toml.Document
import LedgerGateway.Trace

/-!
# Loading a configuration

The path of the configuration is given, or else named by a variable of the environment, or else the
usual one. A path that leads nowhere leaves the default configuration and a warning in the log. The
variables of the environment have the last word.
-/

namespace LedgerGateway.Config

open Hex (Bytes)

/-- The name under which loading writes its log. -/
def loaderLogger : String := "seth_rpc.config.loader"

/-- How much room there is for values that lie inside others. -/
structure Limits where
  /-- Where the values of a file are read. -/
  document : Toml.Room
  /-- How deep a port may be that is shown in a message. -/
  port : Nat

/-- The sections of a file. -/
def readFile (room : Toml.Room) (path : String) (content : Bytes) : Except Fault Datum :=
  match Text.Utf8.decode false content with
  | .error fault => .error (.undecodable fault)
  | .ok text =>
    match Toml.read room text with
    | .ok entries => .ok (.table entries)
    | .error .invalid => .error (.invalidFile path)
    | .error (.tooManyDigits count) => .error (.tooManyDigits count)
    | .error .tooDeep => .error .tooDeep

/-- The content of the file at a path; nothing if the path leads nowhere. -/
def findFile? (files : Files) (p : Files.Path) : Except Files.Fault (Option Bytes) :=
  match files.followPath p with
  | .error .tooLong => .error ⟨.tooLong, p.text⟩
  | .error _ => .ok none
  | .ok entry =>
    match entry.read with
    | .error trouble => .error ⟨trouble, p.text⟩
    | .ok content => .ok (some content)

/-- Loads the configuration at a path. -/
def loadFrom (limits : Limits) (d : Defaults) (files : Files) (env : List (String × String))
    (path : String) :
    Traced (Except Fault NodeConfig) :=
  match findFile? files (.ofText path) with
  | .error fault => pure (.error (.file fault))
  | .ok none => do
    Traced.log .warning loaderLogger s!"Config file not found: {path}, using defaults"
    pure (applyEnv limits.port env (.default d))
  | .ok (some content) =>
    pure do
      let data ← readFile limits.document path content
      let config ← ofDatum limits.port data d
      applyEnv limits.port env config

/-- The path of the configuration. -/
def resolvePath (env : List (String × String)) (path : Option String) : String :=
  path.getD ((env.lookup "SETH_CONFIG").getD "config.toml")

/-- Loads the configuration. -/
def load (limits : Limits) (files : Files) (env : List (String × String)) (path : Option String)
    (d : Defaults := .builtin) : Traced (Except Fault NodeConfig) :=
  loadFrom limits d files env (resolvePath env path)

end LedgerGateway.Config
