import LedgerGateway.Rpc.Method

/-!
# Registrations

The table of a server is filled by registrations, each of one method or of a whole list of them.
Names may come again, within a list or in a later registration.

* `perform`, `performAll` — the table behind one registration, and behind several of them.
* `registered` — all that was registered, in order.
-/

namespace LedgerGateway.Rpc

/-- A registration: of a method under a name, or of a list of methods. -/
inductive Registration where
  | one (name : String) (m : Method)
  | several (methods : List (String × Method))

/-- The names and methods of a registration, in order. -/
def Registration.entries : Registration → List (String × Method)
  | .one name m => [(name, m)]
  | .several methods => methods

/-- The names and methods of registrations, in order. -/
def registered (history : List Registration) : List (String × Method) :=
  history.flatMap Registration.entries

namespace MethodTable

/-- The table behind a registration. -/
def perform (t : MethodTable) : Registration → Traced MethodTable
  | .one name m => t.register name m
  | .several methods => t.registerAll methods

/-- The table behind registrations that are performed one after another. -/
def performAll (t : MethodTable) : List Registration → Traced MethodTable
  | [] => pure t
  | r :: rest => do
    let t ← t.perform r
    performAll t rest

end MethodTable

end LedgerGateway.Rpc
