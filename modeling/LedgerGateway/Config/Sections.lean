import LedgerGateway.Config.Basic

/-!
# The sections of a configuration

The tables of a configuration are turned into its sections. Keys that a section does not know are
refused in the section of the transport and ignored elsewhere. The port may be written as an
integer, a truth value, a floating point number, whose fraction is dropped, or a text. One that is
no port is shown in the message, if there is room for what it holds.
-/

namespace LedgerGateway.Config

/-- The value of a key in a section; a section has to be a table. -/
def lookupIn (v : Datum) (key : String) (absent : Datum) : Except Fault Datum :=
  match v with
  | .table entries => .ok ((entries.lookup key).getD absent)
  | other => .error (.noTable other.kind)

/-! ## The port -/

/-- The refusal of a port that stands for no integer. -/
def noInteger (depth : Nat) (source : String) (v : Datum) : Fault :=
  match v.literalFault? depth with
  | none => .portNotInteger source v
  | some fault => .unwritable fault

/-- The integer that a datum stands for. -/
def portInteger (depth : Nat) (source : String) (v : Datum) : Except Fault Int :=
  match v with
  | .int n => .ok n
  | .bool b => .ok (if b then 1 else 0)
  | .float x =>
    match x.truncate? with
    | some n => .ok n
    | none => .error (if x = .nan then noInteger depth source v else .infinitePort)
  | .string s =>
    match Decimal.readInt s with
    | some n => .ok n
    | none => .error (noInteger depth source v)
  | other => .error (noInteger depth source other)

/-- The port that a datum stands for: an integer from 1 to 65535. -/
def readPort (depth : Nat) (source : String) (v : Datum) : Except Fault Int :=
  match portInteger depth source v with
  | .error fault => .error fault
  | .ok n =>
    if 0 < n ∧ n < 65536 then .ok n
    else if Decimal.isShort n then .error (.portOutOfRange source n)
    else .error (.unwritable .tooManyDigits)

/-! ## The transport -/

/-- Whether a datum can be a key. -/
def isHashable : Datum → Bool
  | .list _ => false
  | .table _ => false
  | _ => true

/-- The elements of a datum that stands in place of a pair. -/
def elements? : Datum → Option (List Datum)
  | .string s => some (s.toList.map fun c => .string (String.ofList [c]))
  | .list items => some items
  | .table entries => some (entries.map fun e => .string e.1)
  | _ => none

/-- The pair that the element with an index stands for. -/
def readPair (index : Nat) (v : Datum) : Except Fault (Datum × Datum) :=
  match elements? v with
  | none => .error (.shape (.notSequence index))
  | some [key, value] =>
    if isHashable key then .ok (key, value) else .error (.shape (.unhashable key.kind))
  | some other => .error (.notPair index other.length)

/-- The pairs of a list, whose first element has the given index. -/
def readPairs : Nat → List Datum → Except Fault (List (Datum × Datum))
  | _, [] => .ok []
  | index, v :: rest =>
    match readPair index v with
    | .error fault => .error fault
    | .ok pair => (readPairs (index + 1) rest).map (pair :: ·)

/-- The keys and values of the section: those of a table, or the pairs of a list or a text. -/
def sectionPairs (v : Datum) : Except Fault (List (Datum × Datum)) :=
  match v with
  | .table entries => .ok (entries.map fun e => (.string e.1, e.2))
  | .list items => readPairs 0 items
  | .string s => readPairs 0 (s.toList.map fun c => .string (String.ofList [c]))
  | other => .error (.shape (.notIterable other.kind))

/-- A key that is text. -/
def textKey? : Datum × Datum → Option (String × Datum)
  | (.string key, v) => some (key, v)
  | _ => none

/-- Checks keys in order against those that a record knows. -/
def checkKeys (record : Record) (known : List String) : List String → Except Fault Unit
  | [] => .ok ()
  | key :: rest =>
    if key = "self" then .error (.shape (.repeatedSelf record))
    else if known.contains key then checkKeys record known rest
    else .error (.shape (.unknownKey record key))

/-- The values of the transport, which have to stand in a table and be known. -/
def httpValues (v : Datum) : Except Fault (List (String × Datum)) :=
  match v with
  | .table entries => do
    checkKeys .http httpNames (entries.map Prod.fst)
    .ok entries
  | other => .error (.shape (.notMapping other.kind))

/-- The values of the keys that are text. -/
def textValues (pairs : List (Datum × Datum)) : List (String × Datum) :=
  Association.ofPairs (pairs.filterMap textKey?)

/-- Checks the keys of the section. They have to be text, and only one is known. -/
def checkPairs (pairs : List (Datum × Datum)) : Except Fault Unit :=
  if pairs.any fun p => (textKey? p).isNone then .error (.shape .nonTextKey)
  else checkKeys .rpc [] ((Association.keys (textValues pairs)).filter (· ≠ "http"))

/-- The values of the section of the transport. -/
def transportValues (v : Datum) : Except Fault (List (String × Datum)) := do
  let pairs ← sectionPairs v
  let values ← httpValues (((textValues pairs).lookup "http").getD (.table []))
  checkPairs pairs
  .ok values

/-! ## All sections -/

/-- The configuration of a table of sections. -/
def ofDatum (depth : Nat) (data : Datum) (d : Defaults := .builtin) : Except Fault NodeConfig := do
  let values ← transportValues (← lookupIn data "rpc" (.table []))
  let port ← readPort depth "[rpc.http]" ((values.lookup "port").getD (.int d.port))
  let node ← lookupIn data "node" (.table [])
  let logLevel ← lookupIn node "log_level" (.string d.logLevel)
  let validator ← lookupIn data "validator" (.table [])
  let url ← lookupIn validator "url" (.string d.url)
  .ok ⟨logLevel, .ofValues d values port, url⟩

/-! ## The environment -/

/-- The value of a variable that is set and not empty. -/
def setVariable? (env : List (String × String)) (name : String) : Option String :=
  (env.lookup name).filter (· ≠ "")

/-- The configuration with the variables of the environment in place of its values. -/
def applyEnv (depth : Nat) (env : List (String × String)) (c : NodeConfig) :
    Except Fault NodeConfig :=
  let text (name : String) (old : Datum) : Datum := (setVariable? env name).elim old .string
  let c := { c with
    logLevel := text "SETH_LOG_LEVEL" c.logLevel
    url := text "SETH_VALIDATOR_URL" c.url
    http := { c.http with host := text "SETH_RPC_HOST" c.http.host } }
  match setVariable? env "SETH_RPC_PORT" with
  | none => .ok c
  | some v => (readPort depth "SETH_RPC_PORT" (.string v)).map fun port =>
      { c with http := { c.http with port } }

end LedgerGateway.Config
