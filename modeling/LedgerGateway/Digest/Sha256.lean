import LedgerGateway.Hex.Data

/-!
# The SHA-256 digest

The hash of a byte string in three steps, each a function on lists: the text is padded to a whole
number of 64-byte blocks, each block is stretched to 64 words, and the words are mixed into the
eight words of the running state.

* `sha256_length` — a digest has 32 bytes.
-/

namespace LedgerGateway.Digest

open LedgerGateway.Hex (Bytes)

/-- The eight words of the running state. -/
structure State where
  a : UInt32
  b : UInt32
  c : UInt32
  d : UInt32
  e : UInt32
  f : UInt32
  g : UInt32
  h : UInt32
  deriving DecidableEq, Repr

/-- The state before the first block: the fractional parts of the square roots of the first eight
primes. -/
def State.initial : State :=
  ⟨0x6a09e667, 0xbb67ae85, 0x3c6ef372, 0xa54ff53a,
   0x510e527f, 0x9b05688c, 0x1f83d9ab, 0x5be0cd19⟩

/-- One word for each round: the fractional parts of the cube roots of the first 64 primes. -/
def roundWords : List UInt32 :=
  [0x428a2f98, 0x71374491, 0xb5c0fbcf, 0xe9b5dba5, 0x3956c25b, 0x59f111f1, 0x923f82a4, 0xab1c5ed5,
   0xd807aa98, 0x12835b01, 0x243185be, 0x550c7dc3, 0x72be5d74, 0x80deb1fe, 0x9bdc06a7, 0xc19bf174,
   0xe49b69c1, 0xefbe4786, 0x0fc19dc6, 0x240ca1cc, 0x2de92c6f, 0x4a7484aa, 0x5cb0a9dc, 0x76f988da,
   0x983e5152, 0xa831c66d, 0xb00327c8, 0xbf597fc7, 0xc6e00bf3, 0xd5a79147, 0x06ca6351, 0x14292967,
   0x27b70a85, 0x2e1b2138, 0x4d2c6dfc, 0x53380d13, 0x650a7354, 0x766a0abb, 0x81c2c92e, 0x92722c85,
   0xa2bfe8a1, 0xa81a664b, 0xc24b8b70, 0xc76c51a3, 0xd192e819, 0xd6990624, 0xf40e3585, 0x106aa070,
   0x19a4c116, 0x1e376c08, 0x2748774c, 0x34b0bcb5, 0x391c0cb3, 0x4ed8aa4a, 0x5b9cca4f, 0x682e6ff3,
   0x748f82ee, 0x78a5636f, 0x84c87814, 0x8cc70208, 0x90befffa, 0xa4506ceb, 0xbef9a3f7, 0xc67178f2]

/-- The word turned right by a number of bits between 1 and 31. -/
def rotateRight (x : UInt32) (n : UInt32) : UInt32 := (x >>> n) ||| (x <<< (32 - n))

/-- The four bytes of a word, the highest first. -/
def wordBytes (w : UInt32) : Bytes :=
  [(w >>> 24).toUInt8, (w >>> 16).toUInt8, (w >>> 8).toUInt8, w.toUInt8]

/-- A number as eight bytes, the highest first. It wraps from 2 ^ 64 on. -/
def numberBytes (n : Nat) : Bytes :=
  wordBytes (UInt32.ofNat (n / UInt32.size)) ++ wordBytes (UInt32.ofNat n)

/-- The words of a byte string whose length is a multiple of four. -/
def words : Bytes → List UInt32
  | b₀ :: b₁ :: b₂ :: b₃ :: rest =>
    ((b₀.toUInt32 <<< 24) ||| (b₁.toUInt32 <<< 16) ||| (b₂.toUInt32 <<< 8) ||| b₃.toUInt32)
      :: words rest
  | _ => []

/-- The text, a one bit, zero bits up to 56 bytes modulo 64, and the length in bits. -/
def pad (text : Bytes) : Bytes :=
  text ++ [0x80] ++ List.replicate ((119 - text.length % 64) % 64) 0
    ++ numberBytes (8 * text.length)

/-- The words of a block stretched by `n` more, newest first: each new word mixes the words 2, 7,
15 and 16 places back. -/
def stretch : Nat → List UInt32 → List UInt32
  | 0, newest => newest
  | n + 1, newest =>
    let w₂ := newest.getD 1 0
    let w₁₅ := newest.getD 14 0
    let s₀ := rotateRight w₁₅ 7 ^^^ rotateRight w₁₅ 18 ^^^ (w₁₅ >>> 3)
    let s₁ := rotateRight w₂ 17 ^^^ rotateRight w₂ 19 ^^^ (w₂ >>> 10)
    stretch n ((newest.getD 15 0 + s₀ + newest.getD 6 0 + s₁) :: newest)

/-- The 64 words of a block of 16. -/
def schedule (block : List UInt32) : List UInt32 := (stretch 48 block.reverse).reverse

/-- One round. -/
def State.round (s : State) (k w : UInt32) : State :=
  let s₁ := rotateRight s.e 6 ^^^ rotateRight s.e 11 ^^^ rotateRight s.e 25
  let choice := (s.e &&& s.f) ^^^ ((~~~ s.e) &&& s.g)
  let t₁ := s.h + s₁ + choice + k + w
  let s₀ := rotateRight s.a 2 ^^^ rotateRight s.a 13 ^^^ rotateRight s.a 22
  let majority := (s.a &&& s.b) ^^^ (s.a &&& s.c) ^^^ (s.b &&& s.c)
  ⟨t₁ + (s₀ + majority), s.a, s.b, s.c, s.d + t₁, s.e, s.f, s.g⟩

/-- The sum of two states, word by word. -/
def State.add (s t : State) : State :=
  ⟨s.a + t.a, s.b + t.b, s.c + t.c, s.d + t.d, s.e + t.e, s.f + t.f, s.g + t.g, s.h + t.h⟩

/-- The state after one block. -/
def State.compress (s : State) (block : List UInt32) : State :=
  s.add ((roundWords.zip (schedule block)).foldl (fun t kw => t.round kw.1 kw.2) s)

/-- The state after the first `n` blocks of 16 words. -/
def State.absorb : Nat → State → List UInt32 → State
  | 0, s, _ => s
  | n + 1, s, ws => State.absorb n (s.compress (ws.take 16)) (ws.drop 16)

/-- The bytes of a state. -/
def State.bytes (s : State) : Bytes :=
  wordBytes s.a ++ wordBytes s.b ++ wordBytes s.c ++ wordBytes s.d
    ++ wordBytes s.e ++ wordBytes s.f ++ wordBytes s.g ++ wordBytes s.h

/-- The SHA-256 digest of a byte string. -/
def sha256 (text : Bytes) : Bytes :=
  let padded := pad text
  (State.initial.absorb (padded.length / 64) (words padded)).bytes

theorem State.bytes_length (s : State) : s.bytes.length = 32 := rfl

/-- A digest has 32 bytes. -/
theorem sha256_length (text : Bytes) : (sha256 text).length = 32 := State.bytes_length _

end LedgerGateway.Digest
