import LedgerGateway.Decimal.Binary64

/-!
# JSON values

A number is an integer or a floating point number, as it was written. An object keeps its members
in order, and a name occurs once: a second member of the same name replaces the value of the first
and stays in its place.
-/

namespace LedgerGateway

open Decimal (Binary64)

/-- A JSON value. -/
inductive Json where
  | null
  | bool (b : Bool)
  | int (n : Int)
  | float (x : Binary64)
  | string (s : String)
  | array (items : List Json)
  | object (members : List (String × Json))
  deriving Repr, Inhabited

namespace Json

/-- How deep values may lie inside others when a text is read or written. How much room there is
depends on what else is going on; an error in a response of a batch lies three deep. -/
structure Room where
  depth : Nat
  three_le : 3 ≤ depth

/-- Room for values a thousand deep. -/
def Room.thousand : Room := ⟨1000, by decide⟩

/-- The value of the member of a name, if the value is an object that has one. -/
def member? (name : String) : Json → Option Json
  | .object members => members.lookup name
  | _ => none

end Json

end LedgerGateway
