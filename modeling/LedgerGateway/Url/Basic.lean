import LedgerGateway.Decimal.Integer

/-!
# URLs

A URL has a scheme, a host with a user in front of it and a port behind it, a path, a query and a
fragment. Any of them but the path may be missing.
-/

namespace LedgerGateway

/-- A URL in its normal form. -/
structure Url where
  /-- The scheme, or the empty text. -/
  scheme : String
  /-- The user, or the empty text. -/
  user : String
  /-- The host, or the empty text. An address of version 6 has no brackets here. -/
  host : String
  /-- The port, unless it is the usual one of the scheme. -/
  port : Option Int
  path : String
  query : Option String
  fragment : Option String
  deriving DecidableEq, Repr

namespace Url

/-- The user, the host and the port as they stand in a URL. -/
def authority (u : Url) : String :=
  (if u.user = "" then "" else u.user ++ "@")
    ++ (if u.host.contains ':' then "[" ++ u.host ++ "]" else u.host)
    ++ (match u.port with
      | some port => ":" ++ Decimal.intText port
      | none => "")

/-- A part behind a mark, if it is there. -/
def marked (mark : String) : Option String → String
  | some part => mark ++ part
  | none => ""

/-- The text of a URL. -/
def text (u : Url) : String :=
  (if u.scheme = "" then "" else u.scheme ++ ":")
    ++ (if u.authority = "" then "" else "//" ++ u.authority)
    ++ u.path ++ marked "?" u.query ++ marked "#" u.fragment

end Url

end LedgerGateway
