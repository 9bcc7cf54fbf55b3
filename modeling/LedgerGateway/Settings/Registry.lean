import LedgerGateway.Settings.EnvFile
import LedgerGateway.Settings.Setting

/-!
# The settings of the gateway

Nine settings have a name and a built-in text. An environment file may give each another text; a
key without a value leaves the built-in one.
-/

namespace LedgerGateway.Settings

/-- The address to listen on. -/
def builtinHost : String := "127.0.0.1"

/-- The port to listen on. -/
def builtinPort : String := "3030"

/-- Where the ledger is found. -/
def builtinUrl : String := "memory://"

/-- The log level. -/
def builtinLevel : String := "INFO"

/-- The layout of a log line. -/
def builtinFormat : String := "%(asctime)s - %(levelname)s - %(name)s - %(message)s"

/-- The layout of a time stamp. -/
def builtinDateFormat : String := "%Y-%m-%dT%H:%M:%S"

/-- Where the log file goes. -/
def builtinLogPath : String := "logs/seth-rpc.log"

/-- The names of the settings and their built-in texts. -/
def builtins : List (String × String) :=
  [("SETH_RPC_HOST", builtinHost), ("SETH_RPC_PORT", builtinPort),
   ("SETH_VALIDATOR_URL", builtinUrl), ("LOG_LEVEL", builtinLevel), ("LOG_FORMAT", builtinFormat),
   ("LOG_DATE_FORMAT", builtinDateFormat), ("LOG_CONSOLE_HIGHLIGHTING", "True"),
   ("LOG_FILE_OUTPUT", "True"), ("LOG_FILE_PATH", builtinLogPath)]

/-- The raw text of a setting: that of the environment file, or the built-in one. -/
def rawText (bindings : List EnvFile.Binding) (name builtin : String) : String :=
  match bindings.lookup name with
  | some (some value) => String.ofList value
  | _ => builtin

/-- The settings under an environment file, in the order of their names. -/
def load (envFile : Option String) : Except FlagFault (List (String × Setting)) :=
  let bindings := (envFile.map EnvFile.read).getD []
  builtins.mapM fun (name, builtin) =>
    match Setting.ofText (rawText bindings name builtin) builtin with
    | .ok setting => .ok (name, setting)
    | .error fault => .error fault

end LedgerGateway.Settings
