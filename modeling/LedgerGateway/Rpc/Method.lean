import LedgerGateway.Ledger.Client

/-!
# Methods

A method is a function from the parameters of a request and the ledger to a reply, or to a fault
without one. The methods of a server form a table in the order in which their names first came.
-/

namespace LedgerGateway.Rpc

/-- A method of the server. -/
abbrev Method := Json → LedgerClient → Traced (Except MethodFault Reply)

/-- The methods of a server by name. -/
abbrev MethodTable := List (String × Method)

/-- The name under which the server writes its log. -/
def serverLogger : String := "seth_rpc.rpc.server"

namespace MethodTable

/-- The method of a name. -/
def find? (t : MethodTable) (name : String) : Option Method := t.lookup name

/-- The names in the order in which they first came. -/
def names (t : MethodTable) : List String := Association.keys t

/-- Registers a method; a name that is there keeps its place. -/
def register (t : MethodTable) (name : String) (m : Method) : Traced MethodTable := do
  Traced.log .debug serverLogger s!"Registered RPC method: {name}"
  pure (Association.put t name m)

/-- Registers methods one after another. -/
def registerEach (t : MethodTable) : List (String × Method) → Traced MethodTable
  | [] => pure t
  | (name, m) :: rest => do
    let t ← t.register name m
    registerEach t rest

/-- Registers a whole list of methods, and counts them in the log. -/
def registerAll (t : MethodTable) (methods : List (String × Method)) : Traced MethodTable := do
  let t ← t.registerEach methods
  Traced.log .info serverLogger s!"Registered {methods.length} RPC methods"
  pure t

end MethodTable

end LedgerGateway.Rpc
