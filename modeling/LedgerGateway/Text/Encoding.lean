import LedgerGateway.Text.Utf8
import LedgerGateway.Text.WideUnits

/-!
# The encoding of a byte string

A byte string that holds JSON tells its encoding itself: by a byte order mark in front, or else by
where the zero bytes stand, because its first two characters are ASCII. The mark is not part of the
text.
-/

namespace LedgerGateway.Text

open LedgerGateway.Hex (Bytes)

/-- An encoding, and whether a byte order mark stands in front. -/
inductive Encoding where
  | utf8 (marked : Bool)
  | utf16 (order : ByteOrder) (marked : Bool)
  | utf32 (order : ByteOrder) (marked : Bool)
  deriving DecidableEq, Repr

/-- The encoding that a byte order mark tells. -/
def Encoding.ofMark? : Bytes → Option Encoding
  | 0x00 :: 0x00 :: 0xFE :: 0xFF :: _ => some (.utf32 .big true)
  | 0xFF :: 0xFE :: 0x00 :: 0x00 :: _ => some (.utf32 .little true)
  | 0xFE :: 0xFF :: _ => some (.utf16 .big true)
  | 0xFF :: 0xFE :: _ => some (.utf16 .little true)
  | 0xEF :: 0xBB :: 0xBF :: _ => some (.utf8 true)
  | _ => none

/-- The encoding that the zero bytes among the first four tell. -/
def Encoding.ofZeros : Bytes → Encoding
  | [a, b] =>
    if a = 0 then .utf16 .big false
    else if b = 0 then .utf16 .little false
    else .utf8 false
  | a :: b :: c :: d :: _ =>
    if a = 0 then (if b = 0 then .utf32 .big false else .utf16 .big false)
    else if b = 0 then
      (if c = 0 ∧ d = 0 then .utf32 .little false else .utf16 .little false)
    else .utf8 false
  | _ => .utf8 false

/-- The encoding of a byte string. -/
def Encoding.detect (bytes : Bytes) : Encoding := (ofMark? bytes).getD (ofZeros bytes)

/-- The characters of a byte string. Faults in UTF-8 are located behind the mark, the others from
the first byte on. -/
def Encoding.decode (bytes : Bytes) : Encoding → Except DecodeFault (List Char)
  | .utf8 marked => Utf8.decode true (bytes.drop (if marked then 3 else 0))
  | .utf16 order marked =>
    let skip := if marked then 2 else 0
    decode16 order skip (bytes.drop skip)
  | .utf32 order marked =>
    let skip := if marked then 4 else 0
    decode32 order skip (bytes.drop skip)

/-- The text of a byte string in the encoding that it tells. -/
def decodeDetected (bytes : Bytes) : Except DecodeFault (List Char) :=
  (Encoding.detect bytes).decode bytes

end LedgerGateway.Text
