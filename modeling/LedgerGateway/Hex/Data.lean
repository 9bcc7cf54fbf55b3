import LedgerGateway.Hex.Digit
import LedgerGateway.Text.Blank

/-!
# Byte strings as hexadecimal data

A byte is written as two lower case digits. Reading takes digits of either case, an optional `0x`
or `0X` in front, and blanks before, between and after the digit pairs, but none inside a pair.

* `readPairs_flatMap_byteDigits` — reading what was written gives the bytes back.
-/

namespace LedgerGateway.Hex

/-- A byte string. -/
abbrev Bytes := List UInt8

/-- The two digits of a byte. -/
def byteDigits (b : UInt8) : List Char :=
  [Nat.digitChar (b.toNat / 16), Nat.digitChar (b.toNat % 16)]

/-- The digits of a byte string, two for each byte, in lower case and with no mark in front. -/
def encode (bytes : Bytes) : String := String.ofList (bytes.flatMap byteDigits)

/-- The text with the mark `0x` in front. -/
def marked (s : String) : String := "0x" ++ s

/-- The text without one mark `0x` or `0X`, if it begins with one. -/
def unmarked : List Char → List Char
  | '0' :: 'x' :: rest => rest
  | '0' :: 'X' :: rest => rest
  | s => s

/-- Where a text stops being hexadecimal data: the offset of the first character that does not
fit, counted after the mark. -/
structure Fault where
  /-- Characters before the one that does not fit. -/
  offset : Nat
  deriving DecidableEq, Repr

/-- The wording of a fault. -/
def Fault.message (f : Fault) : String :=
  s!"non-hexadecimal number found in fromhex() arg at position {f.offset}"

/-- Reads digit pairs. The second argument counts the characters already read. A digit without a
partner is a fault behind it. -/
def readPairs : List Char → Nat → Except Fault Bytes
  | [], _ => .ok []
  | [c], n =>
    if Text.isAsciiBlank c then .ok [] else .error ⟨if isDigit c then n + 1 else n⟩
  | c :: d :: rest, n =>
    if Text.isAsciiBlank c then readPairs (d :: rest) (n + 1)
    else match digitValue? c, digitValue? d with
      | none, _ => .error ⟨n⟩
      | some _, none => .error ⟨n + 1⟩
      | some high, some low =>
        (readPairs rest (n + 2)).map (UInt8.ofNat (high * 16 + low) :: ·)

/-- Reads digit pairs, and reports a character outside ASCII before any other fault. -/
def readBare (s : List Char) : Except Fault Bytes :=
  match s.findIdx? (fun c => 128 ≤ c.toNat) with
  | some i => .error ⟨i⟩
  | none => readPairs s 0

/-- The bytes that a text spells, with or without the mark. -/
def read (s : String) : Except Fault Bytes := readBare (unmarked s.toList)

theorem isAsciiBlank_digitChar {n : Nat} (h : n < 16) :
    Text.isAsciiBlank (Nat.digitChar n) = false := by
  have : ∀ m : Fin 16, Text.isAsciiBlank (Nat.digitChar m.val) = false := by decide
  exact this ⟨n, h⟩

/-- Reading digit pairs gives back the bytes they were written from. -/
theorem readPairs_flatMap_byteDigits (bytes : Bytes) (offset : Nat) :
    readPairs (bytes.flatMap byteDigits) offset = .ok bytes := by
  induction bytes generalizing offset with
  | nil => rfl
  | cons b bytes ih =>
      have high : b.toNat / 16 < 16 := by have := b.toNat_lt; omega
      have low : b.toNat % 16 < 16 := Nat.mod_lt _ (by decide)
      have whole : b.toNat / 16 * 16 + b.toNat % 16 = b.toNat := by omega
      simp [byteDigits, readPairs, isAsciiBlank_digitChar high, digitValue?_digitChar high,
        digitValue?_digitChar low, ih, Except.map, whole]

end LedgerGateway.Hex
