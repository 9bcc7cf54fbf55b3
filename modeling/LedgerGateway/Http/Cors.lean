import LedgerGateway.Datum.Basic
import LedgerGateway.Http.Message
import LedgerGateway.Text.Search

/-!
# Requests from other origins

A browser names the origin of the page that sends a request, and shows the page the response only
if a header admits that origin. Before some requests it asks for leave with a preflight request,
which is answered here for every path.
-/

namespace LedgerGateway.Http

/-- Which origins are admitted: those that are listed, or those that are parts of a text. All of
them are admitted if an asterisk is. -/
inductive Origins where
  | listed (origins : List String)
  | partsOf (text : String)
  deriving DecidableEq, Repr

namespace Origins

/-- The text in a datum, if it is one. -/
def text? : Datum → Option String
  | .string s => some s
  | _ => none

/-- The origins that a setting names. The setting is a list, a table whose names count, or a text;
in nothing else an origin can be looked for. -/
def ofDatum? : Datum → Option Origins
  | .list items => some (.listed (items.filterMap text?))
  | .tuple items => some (.listed (items.filterMap text?))
  | .table entries => some (.listed (entries.map Prod.fst))
  | .string s => some (.partsOf s)
  | _ => none

/-- Whether an origin is named. -/
def names : Origins → String → Bool
  | .listed origins, origin => origins.contains origin
  | .partsOf text, origin => Text.occurs origin.toList text.toList

/-- Whether every origin is admitted. -/
def all (origins : Origins) : Bool := origins.names "*"

/-- Whether an origin is admitted. -/
def admits (origins : Origins) (origin : String) : Bool := origins.all || origins.names origin

/-- The header that admits an origin, if it is admitted. -/
def admission (origins : Origins) (origin : String) : List (String × String) :=
  if origins.admits origin then
    [("access-control-allow-origin", if origins.all then "*" else origin)]
  else []

end Origins

/-- The methods that a page may use. -/
def pageMethods : List String := ["GET", "POST"]

/-- The headers on which the answer to a preflight request depends. -/
def preflightVary : String :=
  "Origin, Access-Control-Request-Method, Access-Control-Request-Headers, Access-Control-Request-Private-Network"

/-- What a preflight request asks leave for. -/
structure Preflight where
  origin : String
  method : String
  /-- The headers that the page wants to send. -/
  headers : Option String
  /-- Whether the page wants to reach into a private network. -/
  privateNetwork : Bool
  deriving DecidableEq, Repr

/-- What a request asks leave for, if it is a preflight request. -/
def Request.preflight? (r : Request) : Option Preflight :=
  match r.header? "origin", r.header? "access-control-request-method" with
  | some origin, some method =>
    if r.method = "OPTIONS" then
      some ⟨origin, method, r.header? "access-control-request-headers",
        (r.header? "access-control-request-private-network").isSome⟩
    else none
  | _, _ => none

/-- What is refused of all that a preflight request asks leave for. No page may reach into a private
network. -/
def Preflight.refused (p : Preflight) (origins : Origins) : List String :=
  (if origins.admits p.origin then [] else ["origin"])
    ++ (if pageMethods.contains p.method then [] else ["method"])
    ++ (if p.privateNetwork then ["private-network"] else [])

/-- The answer to a preflight request: leave, or what of it is refused. -/
def Preflight.answer (p : Preflight) (origins : Origins) : Response :=
  let refused := p.refused origins
  let answer :=
    if refused.isEmpty then Response.ofPlain 200 "OK"
    else Response.ofPlain 400 ("Disallowed CORS " ++ ", ".intercalate refused)
  { answer with
    headers := answer.headers
      ++ [("access-control-allow-methods", ", ".intercalate pageMethods),
          ("access-control-max-age", "600"), ("vary", preflightVary)]
      ++ origins.admission p.origin
      ++ (match p.headers with
        | some names => [("access-control-allow-headers", names)]
        | none => []) }

/-- The response to any other request, with the header that admits its origin. -/
def withAdmission (origins : Origins) (r : Request) (response : Response) : Response :=
  { response with
    headers := response.headers ++ [("vary", "Origin")]
      ++ (match r.header? "origin" with
        | some origin => origins.admission origin
        | none => []) }

end LedgerGateway.Http
