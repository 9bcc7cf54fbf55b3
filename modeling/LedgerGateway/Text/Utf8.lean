import LedgerGateway.Text.DecodeFault

/-!
# UTF-8

A character takes one to four bytes. The first byte tells how many follow and in which range the
second one lies; each of the others lies between 0x80 and 0xBF. A byte string that breaks off or
leaves these ranges is reported at its first such character, together with the bytes that did fit.
Three bytes that spell half a surrogate pair are a fault, unless the reader asks for U+FFFD.
-/

namespace LedgerGateway.Text.Utf8

open LedgerGateway.Hex (Bytes)

/-- The ranges of the bytes behind a first byte; nothing if no character begins so. -/
def following (b : UInt8) : Option (List (UInt8 × UInt8)) :=
  let any : UInt8 × UInt8 := (0x80, 0xBF)
  if b < 0x80 then some []
  else if b < 0xC2 then none
  else if b < 0xE0 then some [any]
  else if b = 0xE0 then some [(0xA0, 0xBF), any]
  else if b = 0xED then some [(0x80, 0x9F), any]
  else if b < 0xF0 then some [any, any]
  else if b = 0xF0 then some [(0x90, 0xBF), any, any]
  else if b < 0xF4 then some [any, any, any]
  else if b = 0xF4 then some [(0x80, 0x8F), any, any]
  else none

/-- The bits that a first byte gives to its character. -/
def leadBits (b : UInt8) : Nat :=
  if b < 0x80 then b.toNat
  else if b < 0xE0 then b.toNat % 0x20
  else if b < 0xF0 then b.toNat % 0x10
  else b.toNat % 0x08

/-- The bits of the bytes behind the first, added to those read so far; or the problem and how many
of these bytes did fit. -/
def readTail : List (UInt8 × UInt8) → Nat → Nat → Bytes → Except (DecodeProblem × Nat) Nat
  | [], _, bits, _ => .ok bits
  | _ :: _, count, _, [] => .error (.unexpectedEnd, count)
  | (low, high) :: ranges, count, bits, b :: rest =>
    if low ≤ b ∧ b ≤ high then readTail ranges (count + 1) (bits * 0x40 + b.toNat % 0x40) rest
    else .error (.invalidContinuation, count)

/-- Whether three bytes spell half a surrogate pair. -/
def isHalf : Bytes → Bool
  | 0xED :: b :: c :: _ => 0xA0 ≤ b && b < 0xC0 && 0x80 ≤ c && c < 0xC0
  | _ => false

/-- The first character of a byte string and what follows it; or the problem and how many bytes
behind the first belong to it. -/
def readChar (halves : Bool) (b : UInt8) (rest : Bytes) :
    Except (DecodeProblem × Nat) (Char × ShorterBytes (b :: rest)) :=
  match following b with
  | none => .error (.invalidStart, 0)
  | some ranges =>
    match readTail ranges 0 (leadBits b) rest with
    | .ok bits =>
      .ok (Char.ofNat bits, ⟨rest.drop ranges.length, by
        simp only [List.length_drop, List.length_cons]; omega⟩)
    | .error problem =>
      if halves && isHalf (b :: rest) then
        .ok ('\uFFFD', ⟨rest.drop 2, by simp only [List.length_drop, List.length_cons]; omega⟩)
      else .error problem

/-- The characters of a byte string behind those read so far (last character first). `offset`
counts the bytes already read. -/
def decodeFrom (halves : Bool) (acc : List Char) (offset : Nat) (bytes : Bytes) :
    Except DecodeFault (List Char) :=
  match bytes with
  | [] => .ok acc.reverse
  | b :: rest =>
    match readChar halves b rest with
    | .error (problem, more) => .error ⟨"utf-8", offset, b, more, problem⟩
    | .ok (c, ⟨rest', _⟩) =>
      decodeFrom halves (c :: acc) (offset + ((rest.length + 1) - rest'.length)) rest'
termination_by bytes.length
decreasing_by assumption

/-- The characters of a byte string. -/
def decode (halves : Bool) (bytes : Bytes) : Except DecodeFault (List Char) :=
  decodeFrom halves [] 0 bytes

/-- The bytes of a text. -/
def encode (s : String) : Bytes := s.toUTF8.data.toList

end LedgerGateway.Text.Utf8
