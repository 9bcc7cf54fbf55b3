import LedgerGateway.Http.Cors
import LedgerGateway.Rpc.Dispatcher

/-!
# The gateway

Two paths are served. Bodies posted to `/` go to the dispatcher, unless they are too large, and
`/health` tells that the gateway is up and how many methods it has. A path that is one of the two
but for slashes at its end is redirected. What the gateway is told about the requests comes from a
configuration and may be of a kind that it can do nothing with, which shows only when a request is
answered.
-/

namespace LedgerGateway.Http

/-- What the gateway is told about the requests it serves. -/
structure Policy where
  /-- Whether pages of other origins are served. -/
  corsEnabled : Bool
  /-- Their origins. -/
  origins : Datum
  /-- The most bytes that a body may have. -/
  maxBody : Datum
  deriving Repr

/-- Pages of all origins, and bodies of up to five mebibytes. -/
def Policy.standard : Policy := ⟨true, .list [.string "*"], .int (5 * 1024 * 1024)⟩

/-- Whether a number of bytes is above a limit; nothing if the limit is no number. -/
def isAbove? (size : Nat) : Datum → Option Bool
  | .bool b => some ((if b then 1 else 0) < size)
  | .int n => some (n < (size : Int))
  | .float x => some (x.isBelow size)
  | _ => none

/-- A fault that breaks the answer to a request off. -/
inductive Fault where
  /-- A fault of the dispatcher. -/
  | dispatcher (fault : Rpc.ServeFault)
  /-- The limit of bodies is no number. -/
  | limitNoNumber
  /-- No origin can be looked for in what was told of origins. -/
  | originsUnusable
  deriving DecidableEq, Repr

/-- The response to a request, if it comes to one, and the fault that broke the answer off. -/
structure Served where
  response : Option Response
  fault : Option Fault
  deriving DecidableEq, Repr

/-- The paths and the method that each is served for. -/
def routes : List (String × String) := [("/", "POST"), ("/health", "GET")]

/-- What a request asks for. -/
inductive Target where
  | rpc
  | health
  | wrongMethod (allowed : String)
  | redirect (path : String)
  | unknown
  deriving DecidableEq, Repr

/-- The path that a path is redirected to, if it is not served itself. -/
def redirected (path : String) : String :=
  let cs := path.toList
  if cs.getLast? = some '/' then String.ofList ((cs.reverse.dropWhile (· = '/')).reverse)
  else path ++ "/"

/-- The route of a path. One line feed at the end of the path does not count. -/
def route? (path : String) : Option (String × String) :=
  routes.find? fun r => path = r.1 || path = r.1 ++ "\n"

/-- What a request with a method and a path asks for. -/
def target (method path : String) : Target :=
  match route? path with
  | some (place, allowed) =>
    if method ≠ allowed then .wrongMethod allowed
    else if place = "/" then .rpc
    else .health
  | none =>
    let other := redirected path
    if (route? other).isSome then .redirect other else .unknown

/-- The location of another path, with the query of the request and on the host that it names. -/
def location (r : Request) (path : String) : String :=
  let host := match r.header? "host" with
    | some host => "http://" ++ host
    | none => ""
  locationText (host ++ path ++ (if r.query = "" then "" else "?" ++ r.query))

/-- The answer to a body that is too large. -/
def tooLarge : Response := .ofJson 413 (Rpc.errorText (.invalidRequest "Request too large"))

/-- The response if the answer is broken off. -/
def brokenDown : Response := .ofPlain 500 "Internal Server Error"

/-- Hands a body to the dispatcher. -/
def serveBody (room : Json.Room) (policy : Policy) (methods : Rpc.MethodTable)
    (client : LedgerClient) (body : Hex.Bytes) : Traced (Except Fault Response) :=
  match isAbove? body.length policy.maxBody with
  | none => pure (.error .limitNoNumber)
  | some true => pure (.ok tooLarge)
  | some false => do
    let answer ← Rpc.handle room methods client (.bytes body)
    pure (match answer with
      | .ok (some text) => .ok (.ofJson 200 text)
      | .ok none => .ok ⟨204, [], ""⟩
      | .error fault => .error (.dispatcher fault))

/-- The answer to a request for the state of the gateway. -/
def health (methods : Rpc.MethodTable) : Response :=
  .ofJson 200 (Json.write .compact
    (.object [("ok", .bool true), ("methods", .int methods.names.length)]))

/-- The body of an answer that only says what is wrong. -/
def detail (status : Nat) (what : String) : Response :=
  .ofJson status (Json.write .compact (.object [("detail", .string what)]))

/-- Answers a request for whatever it asks for. -/
def serveTarget (room : Json.Room) (policy : Policy) (methods : Rpc.MethodTable)
    (client : LedgerClient) (r : Request) : Traced (Except Fault Response) :=
  match target r.method r.path with
  | .rpc => serveBody room policy methods client r.body
  | .health => pure (.ok (health methods))
  | .wrongMethod allowed =>
    pure (.ok ((detail 405 "Method Not Allowed").withHeader "allow" allowed))
  | .redirect path =>
    pure (.ok ⟨307, [("content-length", "0"), ("location", location r path)], ""⟩)
  | .unknown => pure (.ok (detail 404 "Not Found"))

/-- Answers a request, and completes the response unless the answer is broken off. -/
def serveWith (complete : Response → Response) (room : Json.Room) (policy : Policy)
    (methods : Rpc.MethodTable) (client : LedgerClient) (r : Request) : Traced Served := do
  let answer ← serveTarget room policy methods client r
  pure (match answer with
    | .error fault => ⟨some brokenDown, some fault⟩
    | .ok response => ⟨some (complete response), none⟩)

/-- Answers a request. -/
def serve (room : Json.Room) (policy : Policy) (methods : Rpc.MethodTable) (client : LedgerClient)
    (r : Request) : Traced Served :=
  if policy.corsEnabled then
    match Origins.ofDatum? policy.origins with
    | none => pure ⟨none, some .originsUnusable⟩
    | some origins =>
      match r.preflight? with
      | some p => pure ⟨some (p.answer origins), none⟩
      | none => serveWith (withAdmission origins r) room policy methods client r
  else serveWith id room policy methods client r

end LedgerGateway.Http
