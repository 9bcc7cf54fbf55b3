import LedgerGateway.Cli.Bind
import LedgerGateway.Config.Load
import LedgerGateway.Http.Gateway
import LedgerGateway.Ledger.Source
import LedgerGateway.Log.Startup
import LedgerGateway.Rpc.AccountMethods

/-!
# Starting the server

The configuration is loaded, the log is set up with its level, and then the command line has its
say: an address to listen on and a URL of the ledger take the place of those of the configuration,
unless they are empty. With the ledger found, the methods are registered and the web server can be
started.
-/

namespace LedgerGateway.Cli.Serve

/-- What the command line asks for. -/
structure Options where
  config : Option String
  bind : Option String
  connect : Option String
  /-- How often more of the log was asked for. -/
  verbosity : Nat
  deriving DecidableEq, Repr

/-- What the web server is started with. -/
structure Launch where
  host : Datum
  port : Int
  /-- What the gateway is told about the requests. -/
  policy : Http.Policy
  source : Ledger.Source
  methods : Rpc.MethodTable

/-- Why the web server was not started. -/
inductive Fault where
  | config (fault : Config.Fault)
  | bind (fault : BindFault)
  | ledger (fault : Ledger.Source.Unsupported)
  /-- The URL of the ledger is no text. -/
  | urlNotText (kind : String)
  /-- The log was not set up. -/
  | log (fault : Log.StartFault)
  /-- The host cannot be shown in the log. -/
  | unwritable (fault : Datum.LiteralFault)
  deriving Repr

/-- How deep data may lie inside others where they are read or shown. -/
structure Limits extends Config.Limits where
  /-- In the level of the log. -/
  level : Nat
  /-- In the host, when it is shown in the log. -/
  host : Nat

/-- The limits where about a thousand calls may lie inside others. -/
def Limits.thousand : Limits := ⟨⟨.ofSteps 990, 980⟩, 980, 980⟩

/-- How starting the server ends, and the level for the log, if it came so far. -/
structure Ending where
  level : Option Datum
  outcome : Except Fault Launch

/-- The name under which the command writes its log. -/
def serveLogger : String := "seth_rpc.cli"

/-- The level that a verbosity asks for, if it asks for one. -/
def levelOf? (verbosity : Nat) : Option String :=
  match verbosity with
  | 0 => none
  | 1 => some "INFO"
  | _ => some "DEBUG"

/-- The level that the log is set up with. -/
def chooseLevel (verbosity : Nat) (config : Config.NodeConfig) : Datum :=
  match levelOf? verbosity with
  | some level => .string level
  | none => config.logLevel

/-- A text that is not empty. -/
def nonempty? : Option String → Option String
  | some "" => none
  | asked => asked

/-- The transport with an address that was asked for in place of its own. -/
def listenOn (asked : Option String) (http : Config.HttpSettings) :
    Except BindFault Config.HttpSettings :=
  match nonempty? asked with
  | none => .ok http
  | some address => (parseBind address).map fun (host, port) =>
      { http with host := .string host, port }

/-- The configuration with what the command line asks for in place of its values. -/
def override (options : Options) (config : Config.NodeConfig) :
    Except BindFault Config.NodeConfig :=
  (listenOn options.bind config.http).map fun http =>
    { config with http, url := (nonempty? options.connect).elim config.url .string }

/-- What the gateway is told about the requests by the settings of the transport. -/
def policyOf (http : Config.HttpSettings) : Http.Policy :=
  ⟨http.corsEnabled.truth, http.corsOrigins, http.maxRequestSize⟩

/-- The ledger that a URL names. -/
def findLedger : Datum → Except Fault (String × Ledger.Source)
  | .string url =>
    match Ledger.Source.ofUrl url with
    | .ok source => .ok (url, source)
    | .error fault => .error (.ledger fault)
  | other => .error (.urlNotText other.kind)

/-- What is settled before anything is started: the configuration, the URL and the ledger. -/
def settle (options : Options) (config : Config.NodeConfig) :
    Except Fault (Config.NodeConfig × String × Ledger.Source) :=
  match override options config with
  | .error fault => .error (.bind fault)
  | .ok config =>
    match findLedger config.url with
    | .error fault => .error fault
    | .ok found => .ok (config, found)

/-- Registers the methods and notes in the log where the server listens. -/
def launch (depth : Nat) (http : Config.HttpSettings) (url : String) (source : Ledger.Source) :
    Traced (Except Fault Launch) := do
  let methods ← Rpc.MethodTable.registerAll [] Rpc.accountMethods
  Traced.log .info serveLogger s!"Validator: {url}"
  match http.host.textFault? depth with
  | some fault => pure (.error (.unwritable fault))
  | none => do
    let address := s!"{http.host.text}:{Decimal.intText http.port}"
    Traced.log .info serveLogger s!"RPC endpoint: http://{address}/"
    pure (.ok ⟨http.host, http.port, policyOf http, source, methods⟩)

/-- What goes wrong when the log is set up with a level; nothing if that is left to others. -/
def logFault? (depth : Nat) (log : Option Log.Startup) (level : Datum) : Option Log.StartFault :=
  match log with
  | none => none
  | some startup =>
    match startup.setUp depth level with
    | .error fault => some fault
    | .ok _ => none

/-- Goes on with a configuration. -/
def serveWith (limits : Limits) (log : Option Log.Startup) (options : Options)
    (config : Config.NodeConfig) : Traced Ending :=
  let level := chooseLevel options.verbosity config
  match logFault? limits.level log level with
  | some fault => pure ⟨some level, .error (.log fault)⟩
  | none =>
    match settle options config with
    | .error fault => pure ⟨some level, .error fault⟩
    | .ok (config, url, source) => do
      let outcome ← launch limits.host config.http url source
      pure ⟨some level, outcome⟩

/-- Starts the server. -/
def serve (limits : Limits) (log : Option Log.Startup) (d : Config.Defaults) (files : Files)
    (env : List (String × String)) (options : Options) : Traced Ending := do
  let loaded ← Config.load limits.toLimits files env options.config d
  match loaded with
  | .error fault => pure ⟨none, .error (.config fault)⟩
  | .ok config => serveWith limits log options config

end LedgerGateway.Cli.Serve
