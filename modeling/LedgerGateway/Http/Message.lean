import LedgerGateway.Hex.Data
import LedgerGateway.Text.Percent

/-!
# HTTP messages

A request has a method, a path, a query, headers and a body of bytes; a response a status, headers
and a text. The names of headers do not depend on case, and the first of several headers of one
name counts.
-/

namespace LedgerGateway.Http

open Hex (Bytes)

/-- A request. -/
structure Request where
  method : String
  path : String
  /-- What stands behind the question mark. -/
  query : String
  headers : List (String × String)
  body : Bytes
  deriving DecidableEq, Repr

/-- A response. -/
structure Response where
  status : Nat
  headers : List (String × String)
  body : String
  deriving DecidableEq, Repr

/-- The value of a header, whose name is given in lower case. -/
def Request.header? (r : Request) (name : String) : Option String :=
  (r.headers.find? fun h => h.1.map Char.toLower = name).map Prod.snd

/-- A response with a body of some kind. -/
def Response.ofText (status : Nat) (kind body : String) : Response where
  status := status
  headers := [("content-length", s!"{body.utf8ByteSize}"), ("content-type", kind)]
  body := body

/-- A response with a body in JSON. -/
def Response.ofJson (status : Nat) (body : String) : Response :=
  .ofText status "application/json" body

/-- A response in plain text. -/
def Response.ofPlain (status : Nat) (body : String) : Response :=
  .ofText status "text/plain; charset=utf-8" body

/-- The response with one more header. -/
def Response.withHeader (r : Response) (name value : String) : Response :=
  { r with headers := r.headers ++ [(name, value)] }

/-- A location in ASCII: what may not stand in it is escaped. A percent sign stays. -/
def locationText (s : String) : String :=
  String.ofList (Text.Percent.escaped ":/%#?=@[]!$&'()*+,;".toList.contains s.toList)

end LedgerGateway.Http
