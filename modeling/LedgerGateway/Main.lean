import LedgerGateway.Cli.Program
import LedgerGateway.Log.Level

/-!
# The command line

Reads the files and the variables that a run may ask for, runs the program, and prints what it
prints. There are no sockets here: nothing that is posted is answered, and no web server is started.
-/

namespace LedgerGateway.Main

/-- The variables of the environment that the program knows. -/
def knownVariables : List String :=
  ["SETH_CONFIG", "SETH_LOG_LEVEL", "SETH_RPC_HOST", "SETH_RPC_PORT", "SETH_VALIDATOR_URL"]

/-- The values of those variables that are set. -/
def readVariables : IO (List (String × String)) := do
  let found ← knownVariables.mapM fun name => do
    let value ← IO.getEnv name
    pure (value.map (name, ·))
  pure (found.filterMap id)

/-- The names of the files that a run may read. -/
def fileNames (env : List (String × String)) (arguments : List String) : List String :=
  let given := arguments.map fun a =>
    if a.startsWith "--config=" then String.ofList (a.toList.drop "--config=".length) else a
  (env.lookup "SETH_CONFIG").toList ++ ["config.toml"] ++ given

/-- The bytes of a file, if it can be read. -/
def readFile? (name : String) : IO (Option (String × Hex.Bytes)) := do
  try
    let content ← IO.FS.readBinFile name
    pure (some (name, content.data.toList))
  catch _ => pure none

/-- The files that a run may read. -/
def readFiles (names : List String) : IO Files := do
  let found ← names.mapM readFile?
  pure (Files.ofList (found.filterMap id))

/-- What a run finds outside. -/
def surroundings (files : Files) (env : List (String × String)) (startup : Log.Startup) :
    Cli.Surroundings where
  files
  env
  post := fun _ _ => .error (.transport "No transport is available")
  room := .thousand
  limits := .thousand
  log := some startup

/-- What the log shows of a record. -/
def logLine (e : LogEntry) : String := s!"{e.severity.name} - {e.logger} - {e.message}"

/-- The level of the log behind a run: the one that it is set up with, or else the one before. -/
def logLevel (startup : Log.Startup) (ending : Cli.Ending) : Int :=
  let asked := ending.calls.findSome? fun
    | .setUpLog level => some level
    | _ => none
  match asked.map (startup.setUp Cli.Serve.Limits.thousand.level) with
  | some (.ok journal) => journal.level
  | _ => startup.journal.level

/-- Whether a record reaches a level. -/
def reaches (level : Int) (e : LogEntry) : Bool :=
  match Log.levelOf e.severity.name with
  | .ok own => level ≤ own
  | .error _ => false

/-- Whether a run wants a web server. -/
def wantsServer (ending : Cli.Ending) : Bool :=
  ending.calls.any fun
    | .startServer _ => true
    | _ => false

/-- Prints what a run prints, and its log. -/
def present (startup : Log.Startup) (t : Traced Cli.Ending) : IO UInt32 := do
  let ending := t.value
  let shown := t.entries.filter (reaches (logLevel startup ending))
  shown.forM fun e => IO.eprintln (logLine e)
  if ending.code = 0 then IO.print ending.output else IO.eprint ending.output
  if ending.crash.isSome then IO.eprintln "The run broke off."
  if wantsServer ending then
    IO.eprintln "No transport is available"
    return 1
  return UInt32.ofNat ending.code

/-- The defaults under the environment file and what it says of the log, if its settings can be
read. -/
def readDefaults : IO (Option (Config.Defaults × Log.Preferences)) := do
  let found ← readFile? ".env"
  let text := found.bind fun (_, content) =>
    (Text.Utf8.decode false content).toOption.map String.ofList
  pure do
    let settings ← (Settings.load text).toOption
    let d ← Config.Defaults.ofSettings? settings
    some (d, .ofSettings settings)

/-- Where and when the template of the log is tried: at the beginning of time. -/
def logHost : Log.Host := ⟨⟨0x40000000, 980⟩, 1, 1, .zero false⟩

/-- Runs the program with arguments. -/
def runWith (arguments : List String) : IO UInt32 := do
  match ← readDefaults with
  | none =>
    IO.eprintln "The run broke off."
    return 1
  | some (d, preferences) =>
    let env ← readVariables
    let files ← readFiles (fileNames env arguments)
    let startup : Log.Startup := ⟨preferences, .start files, logHost⟩
    present startup (Cli.run (surroundings files env startup) arguments d)

end LedgerGateway.Main

/-- Runs the program. -/
def main (arguments : List String) : IO UInt32 := do
  LedgerGateway.Main.runWith arguments
