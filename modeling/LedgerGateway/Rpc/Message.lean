import LedgerGateway.Json.Writer
import LedgerGateway.Rpc.Error

/-!
# Requests and responses

A request is an object with four members that count: the version of the protocol, the method, its
parameters and an id. All four may be absent, and a request without an id is a notification. A
response carries the id back, together with a result or an error. A response is written only if
there is room for all that it carries.
-/

namespace LedgerGateway.Rpc

/-- A request as it came, each member still any value. -/
structure Request where
  version : Json
  method : Json
  params : Json
  id : Json
  deriving Repr

namespace Request

/-- The value of a member, or another value if the member is absent. -/
def memberOr (members : List (String × Json)) (name : String) (absent : Json) : Json :=
  (members.lookup name).getD absent

/-- The request of the members of an object. An absent version is the current one. -/
def ofMembers (members : List (String × Json)) : Request where
  version := memberOr members "jsonrpc" (.string "2.0")
  method := memberOr members "method" (.string "")
  params := memberOr members "params" .null
  id := memberOr members "id" .null

/-- Whether nobody waits for a response. -/
def isNotification (r : Request) : Bool :=
  match r.id with
  | .null => true
  | _ => false

/-- Whether the request speaks the current version. -/
def isCurrent (r : Request) : Bool :=
  match r.version with
  | .string s => s = "2.0"
  | _ => false

/-- The name of the method, if it is one. -/
def methodName? (r : Request) : Option String :=
  match r.method with
  | .string s => if s = "" then none else some s
  | _ => none

end Request

/-- What a method answers: a value, or something of a kind that JSON cannot express. -/
inductive Reply where
  | value (v : Json)
  | unencodable (kind : String)
  deriving Repr

/-- How a request ended. -/
inductive Outcome where
  | result (reply : Reply)
  | error (e : Json)
  /-- An error whose message need not be a text. -/
  | refusal (code : Int) (message : Reply)
  deriving Repr

/-- The answer to one request. -/
structure Response where
  version : Json
  id : Json
  outcome : Outcome
  deriving Repr

namespace Response

/-- The answer with a result. -/
def success (id : Json) (reply : Reply) : Response := ⟨.string "2.0", id, .result reply⟩

/-- The answer with an error. -/
def failure (id : Json) (e : Error) : Response := ⟨.string "2.0", id, .error e.toJson⟩

/-- The answer with an error whose message need not be a text. -/
def refusal (id : Json) (code : Int) (message : Reply) : Response :=
  ⟨.string "2.0", id, .refusal code message⟩

/-- The answer of four members, in which an error that is not null displaces the result. -/
def ofParts (version id result error : Json) : Response :=
  ⟨version, id, match error with
    | .null => .result (.value result)
    | e => .error e⟩

end Response

/-! ## Writing -/

/-- What keeps a response from being written. -/
inductive EncodeFault where
  | unwritable (fault : Json.WriteFault)
  /-- Something in it is of a kind that JSON cannot express. -/
  | unencodable (kind : String)
  deriving DecidableEq, Repr

/-- The wording of a fault. -/
def EncodeFault.message : EncodeFault → String
  | .unwritable fault => fault.message
  | .unencodable kind => s!"Object of type {kind} is not JSON serializable"

/-- The value that is written for a reply, with room for values down to the given depth. -/
def Reply.written (depth : Nat) : Reply → Except EncodeFault Json
  | .value v => (v.checked depth).mapError .unwritable
  | .unencodable kind => .error (.unencodable kind)

/-- The member that is written for an outcome. -/
def Outcome.written (depth : Nat) : Outcome → Except EncodeFault (String × Json)
  | .result reply => do
    let v ← reply.written depth
    return ("result", v)
  | .error e => do
    let v ← Reply.written depth (.value e)
    return ("error", v)
  | .refusal code message =>
    match depth with
    | 0 => .error (.unwritable .tooDeep)
    | depth + 1 => do
      let code ← Reply.written depth (.value (.int code))
      let message ← message.written depth
      return ("error", .object [("code", code), ("message", message)])

/-- The object that is written for a response, whose parts are written in their order. -/
def Response.written (depth : Nat) (r : Response) : Except EncodeFault Json :=
  match depth with
  | 0 => .error (.unwritable .tooDeep)
  | depth + 1 => do
    let version ← Reply.written depth (.value r.version)
    let id ← Reply.written depth (.value r.id)
    let member ← r.outcome.written depth
    return .object [("jsonrpc", version), ("id", id), member]

/-- The array that is written for the responses of a batch. -/
def writtenAll (depth : Nat) (rs : List Response) : Except EncodeFault Json :=
  match depth with
  | 0 => .error (.unwritable .tooDeep)
  | depth + 1 => do
    let vs ← rs.mapM (Response.written depth)
    return .array vs

/-- The text of an error that answers no request in particular. There is always room for it. -/
def errorText (e : Error) : String :=
  Json.write .spaced (.object [("jsonrpc", .string "2.0"), ("id", .null), ("error", e.toJson)])

/-! ## Parts of a response -/

/-- The members that a response can be made of. -/
def responseFields : List String := ["jsonrpc", "result", "error", "id"]

/-- The first member that no response has. -/
def unknownField? (members : List (String × Json)) : Option String :=
  (members.find? fun m => !responseFields.contains m.1).map Prod.fst

/-- The wording of the refusal of a member. -/
def unknownFieldMessage (name : String) : String :=
  s!"RPCResponse.__init__() got an unexpected keyword argument '{name}'"

end LedgerGateway.Rpc
