import LedgerGateway.Cli.Arguments
import LedgerGateway.Cli.Colour
import LedgerGateway.Cli.Query
import LedgerGateway.Cli.Serve
import LedgerGateway.Url.Reader

/-!
# The program

The program has three commands: one starts the server, one lists its methods and one asks a server.
A run ends with an exit code and what was printed: 0 if all went well, 1 if a command failed, 2 if
it was not used as it should be. What a run does to the outside stands in a list of calls. A fault
that no command reports breaks the run off.
-/

namespace LedgerGateway.Cli

/-- The name of the program. -/
def programName : String := "seth-rpc"

/-- The version of the program. -/
def programVersion : String := "0.1.0"

/-! ## Commands and how they are used -/

/-- The commands. -/
inductive Command where
  | serve
  | methods
  | query
  deriving DecidableEq, Repr

namespace Command

/-- All commands. -/
def all : List Command := [.serve, .methods, .query]

/-- The name of a command. -/
def name : Command → String
  | .serve => "serve"
  | .methods => "methods"
  | .query => "query"

/-- The options of a command. -/
def switches : Command → List Switch
  | .serve => [.config, .bind, .connect, .verbose, .help]
  | .methods => [.help]
  | .query => [.url, .help]

/-- The arguments of a command, as its usage shows them. -/
def shape : Command → String
  | .serve => "[OPTIONS]"
  | .methods => "[OPTIONS]"
  | .query => "[OPTIONS] METHOD [PARAMS]..."

/-- The command of a name. -/
def ofName? (name : String) : Option Command := all.find? fun c => c.name = name

end Command

/-- The options in front of a command. -/
def programSwitches : List Switch := [.version, .help]

/-- What was used wrongly: the program, or one of its commands. -/
abbrev Place := Option Command

/-- The program or command as it is typed. -/
def Place.path : Place → String
  | none => programName
  | some c => s!"{programName} {c.name}"

/-- How the program or a command is used. -/
def Place.usage (p : Place) : String :=
  match p with
  | none => s!"Usage: {p.path} [OPTIONS] COMMAND [ARGS]...\n"
  | some c => s!"Usage: {p.path} {c.shape}\n"

/-- Why a run was not started as it should be. -/
inductive UsageFault where
  | arguments (fault : ArgumentFault)
  | missingCommand
  | unknownCommand (name : String)
  | missingMethod
  | unexpected (arguments : List String)
  | configIsDirectory (path : String)
  | bind (fault : BindFault)
  deriving DecidableEq, Repr

/-- The wording of a fault. -/
def UsageFault.message : UsageFault → String
  | .arguments fault => fault.message
  | .missingCommand => "Missing command."
  | .unknownCommand name =>
    s!"No such command {Text.quoted name}."
      ++ didYouMean (Text.lookalikes (Command.all.map Command.name) name)
  | .missingMethod => "Missing argument 'METHOD'."
  | .unexpected [one] => s!"Got unexpected extra argument ({one})"
  | .unexpected several =>
    let listed := " ".intercalate several
    s!"Got unexpected extra arguments ({listed})"
  | .configIsDirectory path =>
    s!"Invalid value for '--config': File {Text.quoted path} is a directory."
  | .bind fault => s!"Invalid value for --bind: {fault.message}"

/-- Whether the usage is shown with a fault: not with one about the value of an option. -/
def UsageFault.showsUsage : UsageFault → Bool
  | .arguments (.needsValue _) => false
  | .arguments (.takesNoValue _) => false
  | _ => true

/-! ## Runs -/

/-- What a run does to the outside. -/
inductive Call where
  | post (url body : String)
  | setUpLog (level : Datum)
  | startServer (launch : Serve.Launch)

/-- A fault that breaks a run off. -/
inductive Crash where
  /-- The path of the configuration is none. -/
  | configPath
  | serve (fault : Serve.Fault)
  /-- The URL that was to be asked is none. -/
  | url (fault : Url.Fault)
  | query (fault : Query.Fault)
  deriving Repr

/-- How a run ends. -/
structure Ending where
  code : Nat
  output : String
  calls : List Call
  crash : Option Crash

namespace Ending

/-- The end of a run that prints a text. The sequences that set colours are not printed. -/
def printing (code : Nat) (text : String) (calls : List Call) : Ending :=
  ⟨code, String.ofList (Colour.remove text.toList), calls, none⟩

/-- The end of a run in which all went well. -/
def success (text : String) (calls : List Call) : Ending := printing 0 text calls

/-- The end of a run in which a command failed. -/
def failure (message : String) (calls : List Call) : Ending :=
  printing 1 s!"Error: {message}\n" calls

/-- The end of a run that breaks off. -/
def broken (crash : Crash) (calls : List Call) : Ending := ⟨1, "", calls, some crash⟩

/-- The end of a run that was not started as it should be. -/
def misuse (p : Place) (fault : UsageFault) (calls : List Call) : Ending :=
  let hint := p.usage ++ s!"Try '{p.path} --help' for help.\n\n"
  printing 2 ((if fault.showsUsage then hint else "") ++ s!"Error: {fault.message}\n") calls

end Ending

/-- What a run finds outside. -/
structure Surroundings where
  files : Files
  env : List (String × String)
  /-- The reply to a body that is posted to a URL. -/
  post : String → String → Except Query.PostFault Query.Reply
  /-- How deep the values in a reply may lie. -/
  room : Json.Room
  /-- How deep the values in a configuration may lie. -/
  limits : Serve.Limits
  /-- What the log is set up from, unless that is left to others. -/
  log : Option Log.Startup

/-! ## The command `serve` -/

/-- The end of starting the server. -/
def endServe (ending : Serve.Ending) : Ending :=
  let calls := ending.level.toList.map Call.setUpLog
  match ending.outcome with
  | .ok launch => .success "" (calls ++ [.startServer launch])
  | .error (.bind fault) => .misuse (some .serve) (.bind fault) calls
  | .error (.ledger fault) => .failure fault.message calls
  | .error (.config fault) =>
    if fault.isReported then .failure fault.message calls
    else .broken (.serve (.config fault)) calls
  | .error fault => .broken (.serve fault) calls

/-- What is wrong with the path of a configuration: it leads to a folder, or it is none. -/
def configTrouble? (files : Files) (path : String) : Option Files.Trouble :=
  match files.follow path with
  | .ok .folder => some .isFolder
  | .error .nul => some .nul
  | _ => none

/-- How the arguments of `serve` end the run, if they are not as they should be. -/
def serveMisuse? (files : Files) (a : Arguments) : Option Ending :=
  let path := (a.value? .config).getD ""
  match configTrouble? files path with
  | some .nul => some (.broken .configPath [])
  | some _ => some (.misuse (some .serve) (.configIsDirectory path) [])
  | none =>
    if a.others.isEmpty then none else some (.misuse (some .serve) (.unexpected a.others) [])

/-- What the options of `serve` ask for. -/
def serveOptions (a : Arguments) : Serve.Options :=
  ⟨a.value? .config, a.value? .bind, a.value? .connect, a.count .verbose⟩

/-- Runs `serve`. -/
def runServe (d : Config.Defaults) (s : Surroundings) (a : Arguments) : Traced Ending :=
  match serveMisuse? s.files a with
  | some ending => pure ending
  | none => do
    let ending ← Serve.serve s.limits s.log d s.files s.env (serveOptions a)
    pure (endServe ending)

/-! ## The command `methods` -/

/-- Runs `methods`. -/
def runMethods (a : Arguments) : Ending :=
  if a.others.isEmpty then
    .success (String.join (Rpc.accountMethods.map fun m => m.1 ++ "\n")) []
  else .misuse (some .methods) (.unexpected a.others) []

/-! ## The command `query` -/

/-- The server that is asked if no other is named. -/
def usualUrl : String := "http://127.0.0.1:3030/"

/-- The end of a request, given the line that shows its result. -/
def endQuery (line : Except Query.Fault String) (calls : List Call) : Ending :=
  match line with
  | .ok line => .success (line ++ "\n") calls
  | .error fault =>
    match fault.report? with
    | some report => .failure report calls
    | none => .broken (.query fault) calls

/-- Asks a server. A report shows its URL in the normal form. -/
def ask (s : Surroundings) (url method : String) (params : List String) : Ending :=
  match Url.read url with
  | .error fault => .broken (.url fault) []
  | .ok normal =>
    let body := Query.requestBody method params
    let result := Query.conclude s.room normal.text (s.post url body)
    endQuery (result.bind (Query.resultLine s.room)) [.post url body]

/-- Runs `query`. -/
def runQuery (s : Surroundings) (a : Arguments) : Ending :=
  match a.others with
  | [] => .misuse (some .query) .missingMethod []
  | method :: params => ask s ((a.value? .url).getD usualUrl) method params

/-! ## The whole program -/

/-- What the program says of its version. -/
def versionLine : String := s!"{programName}, version {programVersion}\n"

/-- The end of a run that was asked for help or for the version, which come before all else. -/
def answerFirst? (p : Place) (a : Arguments) : Option Ending :=
  match a.first? programSwitches with
  | some .version => some (.success versionLine [])
  | some _ => some (.success p.usage [])
  | none => none

/-- Runs a command with its arguments. -/
def runCommand (d : Config.Defaults) (s : Surroundings) (c : Command) (arguments : List String) :
    Traced Ending :=
  match readArguments c.switches true arguments with
  | .error fault => pure (.misuse (some c) (.arguments fault) [])
  | .ok a =>
    match answerFirst? (some c) a with
    | some ending => pure ending
    | none =>
      match c with
      | .serve => runServe d s a
      | .methods => pure (runMethods a)
      | .query => pure (runQuery s a)

/-- The end of a run with a name that is no command. A name with a dash in front is looked at as an
option once more. -/
def unknownCommand (name : String) (arguments : List String) : Ending :=
  let refusal := Ending.misuse none (.unknownCommand name) []
  if name.toList.head? = some '-' then
    match readArguments programSwitches false (name :: arguments) with
    | .error fault => .misuse none (.arguments fault) []
    | .ok a => (answerFirst? none a).getD refusal
  else refusal

/-- Runs the program. Without arguments it shows how it is used. -/
def run (s : Surroundings) (arguments : List String) (d : Config.Defaults := .builtin) :
    Traced Ending :=
  if arguments.isEmpty then pure (.printing 2 (Place.usage none) [])
  else
    match readArguments programSwitches false arguments with
    | .error fault => pure (.misuse none (.arguments fault) [])
    | .ok a =>
      match answerFirst? none a with
      | some ending => pure ending
      | none =>
        match a.others with
        | [] => pure (.misuse none .missingCommand [])
        | name :: rest =>
          match Command.ofName? name with
          | some c => runCommand d s c rest
          | none => pure (unknownCommand name rest)

end LedgerGateway.Cli
