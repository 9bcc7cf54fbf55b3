import LedgerGateway.Ledger.Basic
import LedgerGateway.Rpc.Fault
import LedgerGateway.Trace

/-!
# What the gateway asks of a ledger

The methods of the gateway see a ledger only through two queries. Either may fail in any way: with
an error of the form in which methods refuse a request, with something that cannot even be
described, or because it is interrupted.
-/

namespace LedgerGateway

open Hex (Bytes)

/-- How a query fails. -/
inductive QueryFailure where
  /-- With an error such as a method refuses a request with. -/
  | rpc (e : Rpc.Error)
  /-- In any other way, which a text describes. -/
  | other (description : String)
  /-- In a way that cannot be described; to try ends like this. -/
  | untold (ending : Rpc.MethodFault)
  | interrupted (i : Rpc.Interruption)
  deriving Repr

/-- The description of a failure; or how the method ends instead that asks for it. -/
def QueryFailure.told : QueryFailure → Except Rpc.MethodFault String
  | .rpc e =>
    if Decimal.isShort e.code then .ok e.text
    else .error (.crashed (.other Decimal.tooLongToWrite))
  | .other description => .ok description
  | .untold ending => .error ending
  | .interrupted i => .error (.interrupted i)

/-- A query that fails with no more than a description fails in some other way. -/
instance {α : Type} : Coe (Except String α) (Except QueryFailure α) := ⟨Except.mapError .other⟩

/-- The queries that a ledger answers. -/
structure LedgerClient where
  getAccount : String → BlockKey → Except QueryFailure (Option Account)
  getStorage : String → String → BlockKey → Except QueryFailure (Option Bytes)

namespace Ledger

/-- An answer of the ledger in memory, whose refusals are told by their wording. -/
def described {α : Type} (answer : Except LedgerFault α) : Except String α :=
  answer.mapError LedgerFault.message

/-- The ledger in memory as the gateway sees it. -/
def client (l : Ledger) : LedgerClient where
  getAccount address key := described (l.getAccount address key)
  getStorage address position key := described (l.getStorage address position key)

/-- Seals the pending state and notes the new block in the log. A ledger that cannot seal another
block stays as it is. -/
def commitLogged (l : Ledger) : Traced Ledger :=
  match l.commit with
  | .ok sealed => do
    Traced.log .debug "seth_rpc.client.memory" (commitMessage sealed.head)
    pure sealed
  | .error _ => pure l

end Ledger

end LedgerGateway
