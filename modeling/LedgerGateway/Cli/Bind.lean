import LedgerGateway.Decimal.Integer
import LedgerGateway.Text.Quoted

/-!
# The address to listen on

An address is a host, a colon and a port. The last colon counts, so the host may hold others. The
port is any integer.
-/

namespace LedgerGateway.Cli

/-- Why a text is no address. -/
inductive BindFault where
  | noHostAndPort (text : String)
  | noPort (text : String)
  deriving DecidableEq, Repr

/-- The wording of a fault. -/
def BindFault.message : BindFault → String
  | .noHostAndPort text => s!"expected HOST:PORT, got {Text.quoted text}"
  | .noPort text => s!"invalid port in {Text.quoted text}"

/-- The host and the port of an address. -/
def parseBind (text : String) : Except BindFault (String × Int) :=
  let cs := text.toList
  let port := (cs.reverse.takeWhile (· ≠ ':')).reverse
  let host := cs.take (cs.length - port.length - 1)
  if host.isEmpty then .error (.noHostAndPort text)
  else
    match Decimal.readInt (String.ofList port) with
    | some n => .ok (String.ofList host, n)
    | none => .error (.noPort text)

end LedgerGateway.Cli
