import LedgerGateway.Text.DecodeFault

/-!
# UTF-16 and UTF-32

Text in units of two or four bytes, in either byte order. In UTF-16 two units that are the halves
of a surrogate pair spell one character. A half that stands alone becomes U+FFFD; bytes at the end
that do not fill a unit, and units beyond the last code point, are faults.
-/

namespace LedgerGateway.Text

open LedgerGateway.Hex (Bytes)

/-- The order of the bytes in a unit. -/
inductive ByteOrder where
  | little
  | big
  deriving DecidableEq, Repr

namespace ByteOrder

/-- How an encoding's name ends. -/
def suffix : ByteOrder → String
  | .little => "le"
  | .big => "be"

/-- The number that the bytes of a unit spell. -/
def number (order : ByteOrder) (unit : Bytes) : Nat :=
  let bytes := match order with
    | .little => unit.reverse
    | .big => unit
  bytes.foldl (fun n b => n * 256 + b.toNat) 0

end ByteOrder

/-- The characters of UTF-16 units; a half that stands alone becomes U+FFFD. -/
def ofUnits16 : List Nat → List Char
  | [] => []
  | [u] => [if 0xD800 ≤ u ∧ u < 0xE000 then '\uFFFD' else Char.ofNat u]
  | u :: v :: rest =>
    if 0xD800 ≤ u ∧ u < 0xDC00 ∧ 0xDC00 ≤ v ∧ v < 0xE000 then
      Char.ofNat (0x10000 + (u - 0xD800) * 0x400 + (v - 0xDC00)) :: ofUnits16 rest
    else
      (if 0xD800 ≤ u ∧ u < 0xE000 then '\uFFFD' else Char.ofNat u) :: ofUnits16 (v :: rest)

/-- The character of a UTF-32 unit, if it is a code point; half a pair becomes U+FFFD. -/
def ofUnit32 (u : Nat) : Option Char :=
  if 0x110000 ≤ u then none
  else some (if 0xD800 ≤ u ∧ u < 0xE000 then '\uFFFD' else Char.ofNat u)

/-- The two-byte units of a byte string, and the byte that is left over. -/
def pairs (order : ByteOrder) : Bytes → List Nat × Bytes
  | a :: b :: rest =>
    let (units, left) := pairs order rest
    (order.number [a, b] :: units, left)
  | left => ([], left)

/-- The characters of UTF-16 text that begins at the given offset. -/
def decode16 (order : ByteOrder) (offset : Nat) (bytes : Bytes) : Except DecodeFault (List Char) :=
  match pairs order bytes with
  | (units, []) => .ok (ofUnits16 units)
  | (units, b :: rest) =>
    .error ⟨"utf-16-" ++ order.suffix, offset + 2 * units.length, b, rest.length, .truncated⟩

/-- The characters of UTF-32 text that begins at the given offset. -/
def decode32 (order : ByteOrder) : Nat → Bytes → Except DecodeFault (List Char)
  | offset, a :: b :: c :: d :: rest =>
    match ofUnit32 (order.number [a, b, c, d]) with
    | none => .error ⟨"utf-32-" ++ order.suffix, offset, a, 3, .outOfRange⟩
    | some ch => (decode32 order (offset + 4) rest).map (ch :: ·)
  | _, [] => .ok []
  | offset, b :: rest => .error ⟨"utf-32-" ++ order.suffix, offset, b, rest.length, .truncated⟩

end LedgerGateway.Text
