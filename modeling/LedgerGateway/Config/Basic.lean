import LedgerGateway.Datum.Basic
import LedgerGateway.Files.Fault
import LedgerGateway.Settings.Registry
import LedgerGateway.Text.DecodeFault

/-!
# The configuration

A configuration has three sections: one for the node, one for the transport and one for the ledger.
Only the port is checked when a configuration is read; the other values stay as they were given.
-/

namespace LedgerGateway.Config

/-- The transport. -/
structure HttpSettings where
  host : Datum
  port : Int
  corsEnabled : Datum
  corsOrigins : Datum
  maxRequestSize : Datum
  deriving Repr

/-- A configuration. -/
structure NodeConfig where
  logLevel : Datum
  http : HttpSettings
  /-- Where the ledger is found. -/
  url : Datum
  deriving Repr

/-! ## Defaults -/

/-- What is taken for values that are not given. -/
structure Defaults where
  logLevel : String
  host : String
  port : Int
  url : String
  deriving DecidableEq, Repr

/-- The built-in defaults. -/
def Defaults.builtin : Defaults :=
  ⟨Settings.builtinLevel, Settings.builtinHost, 3030, Settings.builtinUrl⟩

/-- The integer that a setting stands for. A flag stands for one or zero. -/
def settingInteger? : Settings.Setting → Option Int
  | .text value _ => Decimal.readInt value
  | .flag value _ => some (if value then 1 else 0)

/-- The defaults that the settings of the gateway give, if the one of the port is an integer. -/
def Defaults.ofSettings? (settings : List (String × Settings.Setting)) : Option Defaults := do
  let text (name : String) : Option String := (settings.lookup name).map Settings.Setting.toText
  let logLevel ← text "LOG_LEVEL"
  let host ← text "SETH_RPC_HOST"
  let port ← (settings.lookup "SETH_RPC_PORT").bind settingInteger?
  let url ← text "SETH_VALIDATOR_URL"
  some ⟨logLevel, host, port, url⟩

/-- The names of the settings of the transport. -/
def httpNames : List String :=
  ["host", "port", "cors_enabled", "cors_origins", "max_request_size"]

/-- The transport of values by name, and its port apart. -/
def HttpSettings.ofValues (d : Defaults) (values : List (String × Datum)) (port : Int) :
    HttpSettings :=
  let value (name : String) (absent : Datum) : Datum := (values.lookup name).getD absent
  ⟨value "host" (.string d.host), port, value "cors_enabled" (.bool true),
    value "cors_origins" (.list [.string "*"]),
    value "max_request_size" (.int (5 * 1024 * 1024))⟩

/-- The configuration if nothing is given. -/
def NodeConfig.default (d : Defaults) : NodeConfig :=
  ⟨.string d.logLevel, .ofValues d [] d.port, .string d.url⟩

/-- The configuration as nested tables. -/
def NodeConfig.toDatum (c : NodeConfig) : Datum :=
  .table [("node", .table [("log_level", c.logLevel)]),
    ("rpc", .table [("http", .table
      [("host", c.http.host), ("port", .int c.http.port), ("cors_enabled", c.http.corsEnabled),
       ("cors_origins", c.http.corsOrigins), ("max_request_size", c.http.maxRequestSize)])]),
    ("validator", .table [("url", c.url)])]

/-! ## Faults -/

/-- The two records that the section of the transport fills. -/
inductive Record where
  | rpc
  | http
  deriving DecidableEq, Repr

/-- The name of a record. -/
def Record.name : Record → String
  | .rpc => "RPCConfig"
  | .http => "HTTPConfig"

/-- What is wrong with the shape of the section of the transport. -/
inductive ShapeFault where
  | notIterable (kind : String)
  | notSequence (index : Nat)
  | unhashable (kind : String)
  | notMapping (kind : String)
  | nonTextKey
  | unknownKey (record : Record) (key : String)
  | repeatedSelf (record : Record)
  deriving DecidableEq, Repr

/-- The wording of a fault of shape. -/
def ShapeFault.message : ShapeFault → String
  | .notIterable kind => s!"'{kind}' object is not iterable"
  | .notSequence index =>
    s!"cannot convert dictionary update sequence element #{index} to a sequence"
  | .unhashable kind => s!"unhashable type: '{kind}'"
  | .notMapping kind =>
    s!"seth_rpc.rpc.config.HTTPConfig() argument after ** must be a mapping, not {kind}"
  | .nonTextKey => "keywords must be strings"
  | .unknownKey record key =>
    s!"{record.name}.__init__() got an unexpected keyword argument '{key}'"
  | .repeatedSelf record => s!"{record.name}.__init__() got multiple values for argument 'self'"

/-- Why a configuration was not loaded. -/
inductive Fault where
  /-- The section of the transport has the wrong shape. -/
  | shape (fault : ShapeFault)
  /-- The port is no integer. -/
  | portNotInteger (source : String) (v : Datum)
  /-- The port is no port. -/
  | portOutOfRange (source : String) (n : Int)
  /-- The file is no document. -/
  | invalidFile (path : String)
  /-- A section is no table. -/
  | noTable (kind : String)
  /-- An element that should be a pair is longer or shorter. -/
  | notPair (index length : Nat)
  /-- The port is infinite. -/
  | infinitePort
  /-- The port that is at fault cannot be shown in a message. -/
  | unwritable (fault : Datum.LiteralFault)
  /-- The file holds an integer with too many digits. -/
  | tooManyDigits (count : Nat)
  /-- The file holds values too deep inside others. -/
  | tooDeep
  /-- The file is no text. -/
  | undecodable (fault : Text.DecodeFault)
  /-- The path leads to something that cannot be read, or is none. -/
  | file (fault : Files.Fault)
  deriving Repr

/-- Whether the fault is reported as one of the configuration; every other one breaks the program
off. -/
def Fault.isReported : Fault → Bool
  | .shape _ => true
  | .portNotInteger _ _ => true
  | .portOutOfRange _ _ => true
  | .invalidFile _ => true
  | _ => false

/-- The wording of a fault. What is wrong with a document is not told apart. -/
def Fault.message : Fault → String
  | .shape fault => s!"[rpc]: {fault.message}"
  | .portNotInteger source v => s!"{source}: port must be an integer, got {v.literal}"
  | .portOutOfRange source n => s!"{source}: port out of range: {n}"
  | .invalidFile path => s!"{path}: <toml>"
  | .noTable kind => s!"'{kind}' object has no attribute 'get'"
  | .notPair index length =>
    s!"dictionary update sequence element #{index} has length {length}; 2 is required"
  | .infinitePort => "cannot convert float infinity to integer"
  | .unwritable fault => fault.message
  | .tooManyDigits count => Decimal.tooManyDigits count
  | .tooDeep => "maximum recursion depth exceeded"
  | .undecodable fault => fault.message
  | .file fault => fault.message

end LedgerGateway.Config
