import LedgerGateway.Datum.Moment
import LedgerGateway.Decimal.Integer
import LedgerGateway.Decimal.Shortest
import LedgerGateway.Json.Basic
import LedgerGateway.Text.Quoted

/-!
# Data of a configuration or a log record

A datum is a JSON value or a moment, or a list, a tuple or a table of data. Messages show a datum as
its literal: text between quotes, the words `None`, `True` and `False`, lists in brackets, tuples in
parentheses and tables in braces. Inside a sentence a text stands as it is, and so does a moment;
everything else stands as its literal.
-/

namespace LedgerGateway

open Decimal (Binary64)

/-- A value from a configuration or for a log record. -/
inductive Datum where
  | null
  | bool (b : Bool)
  | int (n : Int)
  | float (x : Binary64)
  | string (s : String)
  | moment (m : Moment)
  | list (items : List Datum)
  | tuple (items : List Datum)
  | table (entries : List (String × Datum))
  deriving Repr, Inhabited

namespace Datum

mutual

/-- The datum of a JSON value. -/
def ofJson : Json → Datum
  | .null => .null
  | .bool b => .bool b
  | .int n => .int n
  | .float x => .float x
  | .string s => .string s
  | .array items => .list (ofItems items)
  | .object members => .table (ofMembers members)

/-- The data of the items of an array. -/
def ofItems : List Json → List Datum
  | [] => []
  | v :: rest => ofJson v :: ofItems rest

/-- The data of the members of an object. -/
def ofMembers : List (String × Json) → List (String × Datum)
  | [] => []
  | (name, v) :: rest => (name, ofJson v) :: ofMembers rest

end

mutual

/-- The literal of a datum. -/
def literal : Datum → String
  | .null => "None"
  | .bool true => "True"
  | .bool false => "False"
  | .int n => Decimal.intText n
  | .float x => x.toString
  | .string s => Text.quoted s
  | .moment m => m.literal
  | .list items => "[" ++ ", ".intercalate (literals items) ++ "]"
  | .tuple items =>
    match literals items with
    | [one] => "(" ++ one ++ ",)"
    | several => "(" ++ ", ".intercalate several ++ ")"
  | .table entries => "\x7b" ++ ", ".intercalate (entryLiterals entries) ++ "\x7d"

/-- The literals of the items of a list. -/
def literals : List Datum → List String
  | [] => []
  | v :: rest => literal v :: literals rest

/-- The literals of the entries of a table. -/
def entryLiterals : List (String × Datum) → List String
  | [] => []
  | (name, v) :: rest => (Text.quoted name ++ ": " ++ literal v) :: entryLiterals rest

end

/-- The datum as it stands in a sentence. -/
def text : Datum → String
  | .string s => s
  | .moment m => m.text
  | d => d.literal

/-- What keeps the literal of a datum from being written. -/
inductive LiteralFault where
  /-- An integer has too many digits. -/
  | tooManyDigits
  /-- A datum lies too deep inside others. -/
  | tooDeep
  deriving DecidableEq, Repr

/-- The wording of a fault. -/
def LiteralFault.message : LiteralFault → String
  | .tooManyDigits => Decimal.tooLongToWrite
  | .tooDeep => "maximum recursion depth exceeded while getting the repr of an object"

mutual

/-- What keeps the literal of a datum from being written first, with room for data down to the given
depth. -/
def literalFault? (depth : Nat) : Datum → Option LiteralFault
  | .int n => if Decimal.isShort n then none else some .tooManyDigits
  | .moment m => if m.literalDepth ≤ depth then none else some .tooDeep
  | .list items | .tuple items =>
    match items, depth with
    | [], _ => none
    | _, 0 => some .tooDeep
    | items, depth + 1 => literalsFault? depth items
  | .table entries =>
    match entries, depth with
    | [], _ => none
    | _, 0 => some .tooDeep
    | entries, depth + 1 => entryLiteralsFault? depth entries
  | _ => none

/-- What keeps the literals of the items of a list from being written first. -/
def literalsFault? (depth : Nat) : List Datum → Option LiteralFault
  | [] => none
  | v :: rest =>
    match literalFault? depth v with
    | some fault => some fault
    | none => literalsFault? depth rest

/-- What keeps the literals of the entries of a table from being written first. -/
def entryLiteralsFault? (depth : Nat) : List (String × Datum) → Option LiteralFault
  | [] => none
  | (_, v) :: rest =>
    match literalFault? depth v with
    | some fault => some fault
    | none => entryLiteralsFault? depth rest

end

/-- What keeps the datum from standing in a sentence. -/
def textFault? (depth : Nat) : Datum → Option LiteralFault
  | .string _ | .moment _ => none
  | d => d.literalFault? depth

/-- The name of the kind of a datum, as messages show it. -/
def kind : Datum → String
  | .null => "NoneType"
  | .bool _ => "bool"
  | .int _ => "int"
  | .float _ => "float"
  | .string _ => "str"
  | .moment (.date _) => "datetime.date"
  | .moment (.time _) => "datetime.time"
  | .moment (.dateTime _ _ _) => "datetime.datetime"
  | .list _ => "list"
  | .tuple _ => "tuple"
  | .table _ => "dict"

/-- Whether the datum counts as true: null, false, zero and everything empty do not. -/
def truth : Datum → Bool
  | .null => false
  | .bool b => b
  | .int n => n ≠ 0
  | .float x => !x.isZero
  | .string s => s ≠ ""
  | .moment _ => true
  | .list items => !items.isEmpty
  | .tuple items => !items.isEmpty
  | .table entries => !entries.isEmpty

end Datum

end LedgerGateway
