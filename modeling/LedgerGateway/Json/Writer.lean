import LedgerGateway.Decimal.Integer
import LedgerGateway.Decimal.Shortest
import LedgerGateway.Hex.Digit
import LedgerGateway.Json.Basic

/-!
# Writing JSON

A style says what stands between items, what stands behind a name, and whether characters outside
ASCII are escaped. Responses are written in the spaced ASCII style, requests in the compact style
that leaves characters as they are. A number that is not finite is written as a bare word. A value
is not written if an integer in it has too many digits or if there is no room for how deep its
values lie inside each other.
-/

namespace LedgerGateway.Json

open Decimal (Binary64)

/-- How a value is laid out. -/
structure Style where
  /-- Between two items. -/
  comma : List Char
  /-- Behind a name. -/
  colon : List Char
  /-- Whether every character outside the visible part of ASCII is escaped. -/
  ascii : Bool
  deriving DecidableEq, Repr

/-- One space behind commas and colons, and nothing but ASCII. -/
def Style.spaced : Style := ⟨[',', ' '], [':', ' '], true⟩

/-- No spaces, and characters as they are. -/
def Style.compact : Style := ⟨[','], [':'], false⟩

/-- The escape of a code unit. -/
def unitEscape (unit : Nat) : List Char := '\\' :: 'u' :: Hex.padded 4 unit

/-- The escape of a code point: one code unit, or the two halves of a pair. -/
def numbered (n : Nat) : List Char :=
  if n < 0x10000 then unitEscape n
  else unitEscape (0xD800 + (n - 0x10000) / 0x400) ++ unitEscape (0xDC00 + (n - 0x10000) % 0x400)

/-- Whether a character stands for itself in a string. -/
def isPlain (ascii : Bool) (c : Char) : Bool :=
  0x20 ≤ c.toNat && (!ascii || c.toNat < 0x7F)

/-- A character of a string. -/
def writeChar (ascii : Bool) (c : Char) : List Char :=
  if c = '"' then ['\\', '"']
  else if c = '\\' then ['\\', '\\']
  else if c = '\n' then ['\\', 'n']
  else if c = '\r' then ['\\', 'r']
  else if c = '\t' then ['\\', 't']
  else if c = '\x08' then ['\\', 'b']
  else if c = '\x0c' then ['\\', 'f']
  else if isPlain ascii c then [c]
  else numbered c.toNat

/-- A string between its quotes. -/
def writeString (ascii : Bool) (s : String) : List Char :=
  '"' :: s.toList.flatMap (writeChar ascii) ++ ['"']

/-- A floating point number. -/
def writeFloat : Binary64 → List Char
  | .infinite false => "Infinity".toList
  | .infinite true => "-Infinity".toList
  | .nan => "NaN".toList
  | x => x.toChars

mutual

/-- The text of a value. -/
def writeChars (style : Style) : Json → List Char
  | .null => "null".toList
  | .bool true => "true".toList
  | .bool false => "false".toList
  | .int n => (Decimal.intText n).toList
  | .float x => writeFloat x
  | .string s => writeString style.ascii s
  | .array [] => ['[', ']']
  | .array (v :: rest) => '[' :: writeChars style v ++ writeItems style rest ++ [']']
  | .object [] => ['{', '}']
  | .object ((name, v) :: rest) =>
    '{' :: writeString style.ascii name ++ style.colon ++ writeChars style v
      ++ writeMembers style rest ++ ['}']

/-- The items behind the first one. -/
def writeItems (style : Style) : List Json → List Char
  | [] => []
  | v :: rest => style.comma ++ writeChars style v ++ writeItems style rest

/-- The members behind the first one. -/
def writeMembers (style : Style) : List (String × Json) → List Char
  | [] => []
  | (name, v) :: rest =>
    style.comma ++ writeString style.ascii name ++ style.colon ++ writeChars style v
      ++ writeMembers style rest

end

/-- The text of a value in a style. -/
def write (style : Style) (v : Json) : String := String.ofList (writeChars style v)

/-! ## What is not written -/

/-- What keeps a value from being written. -/
inductive WriteFault where
  /-- An integer has too many digits. -/
  | tooManyDigits
  /-- A value lies too deep inside others. -/
  | tooDeep
  deriving DecidableEq, Repr

/-- The wording of a fault. -/
def WriteFault.message : WriteFault → String
  | .tooManyDigits => Decimal.tooLongToWrite
  | .tooDeep => "maximum recursion depth exceeded while encoding a JSON object"

mutual

/-- What keeps a value from being written first, with room for values down to the given depth. -/
def fault? (depth : Nat) : Json → Option WriteFault
  | .int n => if Decimal.isShort n then none else some .tooManyDigits
  | .array items =>
    match depth with
    | 0 => some .tooDeep
    | depth + 1 => itemsFault? depth items
  | .object members =>
    match depth with
    | 0 => some .tooDeep
    | depth + 1 => membersFault? depth members
  | _ => none

/-- What keeps the items of an array from being written first. -/
def itemsFault? (depth : Nat) : List Json → Option WriteFault
  | [] => none
  | v :: rest =>
    match fault? depth v with
    | some fault => some fault
    | none => itemsFault? depth rest

/-- What keeps the members of an object from being written first. -/
def membersFault? (depth : Nat) : List (String × Json) → Option WriteFault
  | [] => none
  | (_, v) :: rest =>
    match fault? depth v with
    | some fault => some fault
    | none => membersFault? depth rest

end

/-- The value, if there is room to write it. -/
def checked (depth : Nat) (v : Json) : Except WriteFault Json :=
  match v.fault? depth with
  | some fault => .error fault
  | none => .ok v

end LedgerGateway.Json
