import LedgerGateway.Json.Basic

/-!
# Errors on the wire

An error is a code and a message. The codes of the standard cover bodies and requests that do not
fit; one code of the server's own range stands for what the gateway does not offer.
-/

namespace LedgerGateway.Rpc

/-- An error as it is reported to a caller. -/
structure Error where
  code : Int
  message : String
  deriving DecidableEq, Repr

namespace Error

/-- The body is not JSON. -/
def parseError (what : String) : Error := ⟨-32700, s!"Parse error: {what}"⟩

/-- The request does not have the form of one. -/
def invalidRequest (message : String) : Error := ⟨-32600, message⟩

/-- No method has the name. -/
def methodNotFound (name : String) : Error := ⟨-32601, s!"Method not found: {name}"⟩

/-- The parameters do not suit the method. -/
def invalidParams (message : String) : Error := ⟨-32602, message⟩

/-- The ledger failed, or a method did; the caller learns no more. -/
def internal : Error := ⟨-32603, "Internal error"⟩

/-- The gateway does not offer what was asked. -/
def notImplemented : Error := ⟨-32004, "Not implemented"⟩

/-- The error as a JSON object. -/
def toJson (e : Error) : Json := .object [("code", .int e.code), ("message", .string e.message)]

/-- The error in one line. -/
def text (e : Error) : String := s!"{e.message} ({e.code})"

end Error

end LedgerGateway.Rpc
