import LedgerGateway.Hex.Data

/-!
# Faults of encoded text

A byte string that is no text in some encoding is reported by the first bytes that do not fit,
where they stand and what is wrong with them.
-/

namespace LedgerGateway.Text

open LedgerGateway.Hex (Bytes)

/-- What is wrong with the bytes. -/
inductive DecodeProblem where
  | invalidStart
  | invalidContinuation
  | unexpectedEnd
  | truncated
  | outOfRange
  deriving DecidableEq, Repr

/-- The wording of a problem. -/
def DecodeProblem.message : DecodeProblem → String
  | .invalidStart => "invalid start byte"
  | .invalidContinuation => "invalid continuation byte"
  | .unexpectedEnd => "unexpected end of data"
  | .truncated => "truncated data"
  | .outOfRange => "code point not in range(0x110000)"

/-- The first bytes of a byte string that do not fit an encoding. -/
structure DecodeFault where
  /-- The name of the encoding. -/
  encoding : String
  /-- The bytes in front of those that do not fit. -/
  offset : Nat
  /-- The first of the bytes that do not fit. -/
  first : UInt8
  /-- How many more of them there are. -/
  more : Nat
  /-- What is wrong with them. -/
  problem : DecodeProblem
  deriving DecidableEq, Repr

/-- The wording of a fault. One byte is shown, several are only located. -/
def DecodeFault.message (f : DecodeFault) : String :=
  let place :=
    if f.more = 0 then
      let shown := String.ofList (Hex.byteDigits f.first)
      s!"byte 0x{shown} in position {f.offset}"
    else
      let last := f.offset + f.more
      s!"bytes in position {f.offset}-{last}"
  s!"'{f.encoding}' codec can't decode {place}: {f.problem.message}"

/-- What is left of a byte string after something was taken from it. -/
abbrev ShorterBytes (s : Bytes) := { r : Bytes // r.length < s.length }

end LedgerGateway.Text
