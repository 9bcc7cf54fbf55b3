import LedgerGateway.Datum.Basic
import LedgerGateway.Http.Reason
import LedgerGateway.Json.Reader
import LedgerGateway.Json.Writer
import LedgerGateway.Text.Encoding
import LedgerGateway.Text.Search

/-!
# Asking a server

One request is posted to a server, and the reply is shown: the result, or the error that the reply
holds. A reply is expected to be an object, but what comes back is looked into as it is: the word
`error` is searched among the members of an object, the items of an array and the characters of a
text, and the steps after that fail in their own ways on what is no object.
-/

namespace LedgerGateway.Cli.Query

open Hex (Bytes)

/-- The reply of a server. -/
structure Reply where
  status : Nat
  body : Bytes
  deriving DecidableEq, Repr

/-- Why there is no reply. -/
inductive PostFault where
  /-- The transport failed. -/
  | transport (message : String)
  /-- Something else went wrong, of the given kind. -/
  | other (kind : String)
  deriving DecidableEq, Repr

/-- The body of the request. -/
def requestBody (method : String) (params : List String) : String :=
  Json.write .compact (.object [("jsonrpc", .string "2.0"), ("method", .string method),
    ("params", .array (params.map .string)), ("id", .int 1)])

/-- Why there is no result to show. -/
inductive Fault where
  /-- The request failed, with a report. -/
  | failed (report : String)
  /-- The reply holds an error. -/
  | refused (message code : Json)
  /-- There is no reply, for a cause that is not expected. -/
  | noReply (kind : String)
  /-- The body of the reply is no text. -/
  | undecodable (fault : Text.DecodeFault)
  /-- The body of the reply is not JSON. -/
  | unreadable (fault : Json.ReadFault)
  /-- The reply is nothing that holds anything. -/
  | holdsNothing
  /-- The reply holds the word `error`, but not as a name. -/
  | holdsNoNames
  /-- The reply has no members to look for a result in. -/
  | noMembers
  /-- The error in the reply is no object. -/
  | errorNotObject
  /-- The result cannot be written. -/
  | unwritable (fault : Json.WriteFault)
  deriving Repr

/-- A member of an object, or null. -/
def member (members : List (String × Json)) (name : String) : Json :=
  (members.lookup name).getD .null

/-- The result that a reply holds. -/
def resultOf : Json → Except Fault Json
  | .object members =>
    match members.lookup "error" with
    | none => .ok (member members "result")
    | some (.object parts) => .error (.refused (member parts "message") (member parts "code"))
    | some _ => .error .errorNotObject
  | .array items =>
    if items.any fun | .string s => s = "error" | _ => false then .error .holdsNoNames
    else .error .noMembers
  | .string s =>
    if Text.occurs "error".toList s.toList then .error .holdsNoNames else .error .noMembers
  | _ => .error .holdsNothing

/-- The value in the body of a reply. -/
def readBody (room : Json.Room) (body : Bytes) : Except Fault Json :=
  match Text.decodeDetected body with
  | .error fault => .error (.undecodable fault)
  | .ok decoded => (Json.readWithin room.depth decoded).mapError .unreadable

/-- The result of a request that was posted to a URL. -/
def conclude (room : Json.Room) (url : String) : Except PostFault Reply → Except Fault Json
  | .error (.transport message) => .error (.failed message)
  | .error (.other kind) => .error (.noReply kind)
  | .ok reply =>
    if Http.isSuccess reply.status then
      match readBody room reply.body with
      | .error fault => .error fault
      | .ok v => resultOf v
    else .error (.failed (Http.failureReport reply.status url))

/-- The line that shows a result. -/
def resultLine (room : Json.Room) (v : Json) : Except Fault String :=
  ((v.checked room.depth).mapError .unwritable).map (Json.write .spaced)

/-- The message about a fault, if it is one that is reported; every other one breaks the command
off. -/
def Fault.report? : Fault → Option String
  | .failed report => some s!"Request failed: {report}"
  | .refused message code =>
    some s!"{(Datum.ofJson message).text} ({(Datum.ofJson code).text})"
  | _ => none

end LedgerGateway.Cli.Query
