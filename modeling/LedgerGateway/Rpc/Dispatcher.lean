import LedgerGateway.Json.Reader
import LedgerGateway.Rpc.Method
import LedgerGateway.Text.Encoding

/-!
# The dispatcher

A body is one request or a batch of them. Each request is answered on its own: it is checked, its
method is called, and a response is made unless nobody waits for one. The responses of a batch
stand in the order of their requests. A body that is not JSON is answered with a parse error. Some
bodies are not answered at all, and what kept them from it is reported to the transport: they pass a
limit, a response cannot be written, or a method throws what the dispatcher does not hold up.
-/

namespace LedgerGateway.Rpc

open Hex (Bytes)

/-- What a transport hands over. -/
inductive Body where
  | text (s : String)
  | bytes (b : Bytes)
  /-- A value that was read elsewhere. -/
  | value (v : Json)
  deriving Repr

/-- What keeps the dispatcher from answering. -/
inductive ServeFault where
  /-- The body holds an integer with too many digits. -/
  | tooManyDigits (count : Nat)
  /-- The body holds values too deep inside others. -/
  | tooDeep (container : Json.Container)
  /-- A response cannot be written. -/
  | unwritten (fault : EncodeFault)
  /-- An error that is to be told has no code. -/
  | noCode (thrown : Thrown)
  /-- A method was interrupted. -/
  | interrupted (i : Interruption)
  deriving DecidableEq, Repr

/-- The wording of a fault. -/
def ServeFault.message : ServeFault → String
  | .tooManyDigits count => Decimal.tooManyDigits count
  | .tooDeep .array =>
    "maximum recursion depth exceeded while decoding a JSON array from a unicode string"
  | .tooDeep .object =>
    "maximum recursion depth exceeded while decoding a JSON object from a unicode string"
  | .unwritten fault => fault.message
  | .noCode thrown => thrown.description
  | .interrupted i => i.thrown.description

/-- A body that was not read: not JSON, for the reason given, or beyond a limit. -/
inductive BodyFault where
  | unreadable (reason : String)
  | beyondLimit (fault : ServeFault)
  deriving DecidableEq, Repr

/-- The fault of a body whose text was not read. -/
def BodyFault.ofRead : Json.ReadFault → BodyFault
  | .malformed problem position => .unreadable (Json.malformedMessage problem position)
  | .tooManyDigits count => .beyondLimit (.tooManyDigits count)
  | .tooDeep container => .beyondLimit (.tooDeep container)

/-- The value of a body, with room for values down to the given depth. -/
def Body.read (depth : Nat) : Body → Except BodyFault Json
  | .text s => (Json.readUnmarked depth s.toList).mapError .ofRead
  | .bytes b =>
    match Text.decodeDetected b with
    | .error fault => .error (.unreadable fault.message)
    | .ok decoded => (Json.readWithin depth decoded).mapError .ofRead
  | .value v => .ok v

/-! ## One request -/

/-- What a method's end becomes for the caller. -/
def respond (id : Json) : Except MethodFault Reply → Except ServeFault Response
  | .ok reply => .ok (.success id reply)
  | .error (.refused e) => .ok (.failure id e)
  | .error (.noText code message) => .ok (.refusal id code message)
  | .error (.noCode thrown) => .error (.noCode thrown)
  | .error (.crashed _) => .ok (.failure id .internal)
  | .error (.interrupted i) => .error (.interrupted i)

/-- Notes in the log that a method broke down. -/
def noteCrash (name : String) : Except MethodFault Reply → Traced Unit
  | .error (.crashed _) => Traced.log .error serverLogger s!"Error handling RPC method {name}"
  | _ => pure ()

/-- Calls the method of a name, if there is one. -/
def call (methods : MethodTable) (client : LedgerClient) (name : String) (params : Json) :
    Traced (Except MethodFault Reply) :=
  match methods.find? name with
  | none => pure (.error (.refused (.methodNotFound name)))
  | some m => do
    let ending ← m params client
    noteCrash name ending
    pure ending

/-- What a method's end becomes if nobody waits for a response: only an interruption counts. -/
def dropped : Except MethodFault Reply → Except ServeFault (Option Response)
  | .error (.interrupted i) => .error (.interrupted i)
  | _ => .ok none

/-- What becomes of a request whose method has ended. -/
def conclude (r : Request) (ending : Except MethodFault Reply) :
    Except ServeFault (Option Response) :=
  if r.isNotification then dropped ending else (respond r.id ending).map some

/-- Answers the members of a request object. -/
def handleMembers (methods : MethodTable) (client : LedgerClient)
    (members : List (String × Json)) : Traced (Except ServeFault (Option Response)) :=
  let r := Request.ofMembers members
  if !r.isCurrent then
    pure (.ok (some (.failure r.id (.invalidRequest "Invalid JSON-RPC version"))))
  else
    match r.methodName? with
    | none => pure (.ok (some (.failure r.id (.invalidRequest "Missing method"))))
    | some name => do
      let ending ← call methods client name r.params
      pure (conclude r ending)

/-- Answers one request; what is no object is no request. -/
def handleSingle (methods : MethodTable) (client : LedgerClient) :
    Json → Traced (Except ServeFault (Option Response))
  | .object members => handleMembers methods client members
  | _ => pure (.ok (some (.failure .null (.invalidRequest "Invalid request"))))

/-! ## Batches -/

/-- Whether a request ended so that nothing else goes on. -/
def isHalted : Except ServeFault (Option Response) → Bool
  | .error (.interrupted i) => i.halts
  | _ => false

/-- The responses of a batch: that of its first request, if it has one, and those of the others. The
fault that comes first is that of the batch. -/
def gather (first : Except ServeFault (Option Response))
    (others : Except ServeFault (List Response)) :
    Except ServeFault (List Response) := do
  let response ← first
  let responses ← others
  return response.toList ++ responses

/-- Answers the requests of a batch in order. A fault of one of them does not keep the others from
being handled, unless nothing goes on behind it. -/
def handleEach (methods : MethodTable) (client : LedgerClient) :
    List Json → Traced (Except ServeFault (List Response))
  | [] => pure (.ok [])
  | request :: rest => do
    let first ← handleSingle methods client request
    let others ← if isHalted first then pure (.ok []) else handleEach methods client rest
    pure (gather first others)

/-! ## Bodies -/

/-- The text of one response, with room for values down to the given depth. -/
def encodeOne (depth : Nat) (r : Response) : Except ServeFault String :=
  ((r.written depth).mapError .unwritten).map (Json.write .spaced)

/-- The text of the responses of a batch, or nothing if there are none. -/
def encodeAll (depth : Nat) (rs : List Response) : Except ServeFault (Option String) :=
  if rs.isEmpty then .ok none
  else (((writtenAll depth rs).mapError .unwritten).map (Json.write .spaced)).map some

/-- Answers a value that was read from a body. -/
def handleValue (depth : Nat) (methods : MethodTable) (client : LedgerClient) :
    Json → Traced (Except ServeFault (Option String))
  | .array [] => pure (.ok (some (errorText (.invalidRequest "Empty batch"))))
  | .array requests => do
    let responses ← handleEach methods client requests
    pure (responses.bind (encodeAll depth))
  | request => do
    let response ← handleSingle methods client request
    pure (match response with
      | .error fault => .error fault
      | .ok none => .ok none
      | .ok (some r) => (encodeOne depth r).map some)

/-- Answers a body: with a text, or with nothing if nobody waits for one. -/
def handle (room : Json.Room) (methods : MethodTable) (client : LedgerClient) (body : Body) :
    Traced (Except ServeFault (Option String)) :=
  match body.read room.depth with
  | .error (.unreadable reason) => pure (.ok (some (errorText (.parseError reason))))
  | .error (.beyondLimit fault) => pure (.error fault)
  | .ok v => handleValue room.depth methods client v

end LedgerGateway.Rpc
