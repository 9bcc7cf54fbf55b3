import LedgerGateway.Text.Encoding

/-!
# UTF-8 is read back

The bytes of a text in UTF-8 are read as that text. Each length of a character, one to four bytes,
has its own lemma, in which the first byte gives the leading bits and every other one six more. A
text that begins in ASCII and holds no zero character is also told to be UTF-8 by its bytes alone.

* `Utf8.readChar_utf8EncodeChar` — the bytes of a character are read as that character.
* `Utf8.decode_encode` — the bytes of a text are read as that text.
* `decodeDetected_encode` — they are if the encoding has to be told from them, too.
-/

namespace LedgerGateway.Text.Utf8

open LedgerGateway.Hex (Bytes)

theorem encode_ofList (cs : List Char) :
    encode (String.ofList cs) = cs.flatMap String.utf8EncodeChar := by
  unfold encode
  rw [String.toUTF8_eq_toByteArray, String.toByteArray_ofList]
  simp [List.utf8Encode]

/-! ## Bytes -/

theorem toNat_ofNat {n : Nat} (h : n < 256) : (UInt8.ofNat n).toNat = n :=
  UInt8.toNat_ofNat_of_lt h

theorem readChar_eq_ok (halves : Bool) {b : UInt8} {rest : Bytes} {ranges : List (UInt8 × UInt8)}
    {bits : Nat} (first : following b = some ranges)
    (others : readTail ranges 0 (leadBits b) rest = .ok bits) :
    ∃ r, readChar halves b rest = .ok (Char.ofNat bits, r) ∧ r.val = rest.drop ranges.length := by
  unfold readChar
  simp only [first, others]
  exact ⟨_, rfl, rfl⟩

/-- A byte behind the first one gives six bits. -/
theorem readTail_six {low high : UInt8} {bits : Nat} (count six : Nat)
    (ranges : List (UInt8 × UInt8)) (rest : Bytes)
    (h : low.toNat ≤ six % 0x40 + 0x80 ∧ six % 0x40 + 0x80 ≤ high.toNat) :
    readTail ((low, high) :: ranges) count bits (UInt8.ofNat (six % 0x40 + 0x80) :: rest) =
      readTail ranges (count + 1) (bits * 0x40 + six % 0x40) rest := by
  have value := toNat_ofNat (n := six % 0x40 + 0x80) (by omega)
  rw [readTail, if_pos, value]
  · congr 2
    omega
  · rw [UInt8.le_iff_toNat_le, UInt8.le_iff_toNat_le, value]
    exact h

theorem following_eq (b : UInt8) :
    following b =
      if b.toNat < 0x80 then some []
      else if b.toNat < 0xC2 then none
      else if b.toNat < 0xE0 then some [(0x80, 0xBF)]
      else if b.toNat = 0xE0 then some [(0xA0, 0xBF), (0x80, 0xBF)]
      else if b.toNat = 0xED then some [(0x80, 0x9F), (0x80, 0xBF)]
      else if b.toNat < 0xF0 then some [(0x80, 0xBF), (0x80, 0xBF)]
      else if b.toNat = 0xF0 then some [(0x90, 0xBF), (0x80, 0xBF), (0x80, 0xBF)]
      else if b.toNat < 0xF4 then some [(0x80, 0xBF), (0x80, 0xBF), (0x80, 0xBF)]
      else if b.toNat = 0xF4 then some [(0x80, 0x8F), (0x80, 0xBF), (0x80, 0xBF)]
      else none := by
  simp only [following, UInt8.lt_iff_toNat_lt, ← UInt8.toNat_inj]
  rfl

theorem leadBits_eq (b : UInt8) :
    leadBits b =
      if b.toNat < 0x80 then b.toNat
      else if b.toNat < 0xE0 then b.toNat % 0x20
      else if b.toNat < 0xF0 then b.toNat % 0x10
      else b.toNat % 0x08 := by
  simp only [leadBits, UInt8.lt_iff_toNat_lt]
  rfl

/-- The ranges behind the first of three bytes leave out long spellings and surrogates. -/
theorem following_three {b : UInt8} (second : Nat) (first : 0xE0 ≤ b.toNat ∧ b.toNat < 0xF0)
    (h : 0x80 ≤ second ∧ second ≤ 0xBF) (long : b.toNat = 0xE0 → 0xA0 ≤ second)
    (half : b.toNat = 0xED → second ≤ 0x9F) :
    ∃ low high : UInt8, following b = some [(low, high), (0x80, 0xBF)] ∧
      low.toNat ≤ second ∧ second ≤ high.toNat := by
  rw [following_eq, if_neg (by omega), if_neg (by omega), if_neg (by omega)]
  split
  · next e0 => exact ⟨0xA0, 0xBF, rfl, long e0, h.2⟩
  split
  · next ed => exact ⟨0x80, 0x9F, rfl, h.1, half ed⟩
  · rw [if_pos first.2]
    exact ⟨0x80, 0xBF, rfl, h⟩

/-- The ranges behind the first of four bytes leave out long spellings and what is no code
point. -/
theorem following_four {b : UInt8} (second : Nat) (first : 0xF0 ≤ b.toNat ∧ b.toNat < 0xF5)
    (h : 0x80 ≤ second ∧ second ≤ 0xBF) (long : b.toNat = 0xF0 → 0x90 ≤ second)
    (beyond : b.toNat = 0xF4 → second ≤ 0x8F) :
    ∃ low high : UInt8, following b = some [(low, high), (0x80, 0xBF), (0x80, 0xBF)] ∧
      low.toNat ≤ second ∧ second ≤ high.toNat := by
  rw [following_eq, if_neg (by omega), if_neg (by omega), if_neg (by omega), if_neg (by omega),
    if_neg (by omega), if_neg (by omega)]
  split
  · next f0 => exact ⟨0x90, 0xBF, rfl, long f0, h.2⟩
  split
  · exact ⟨0x80, 0xBF, rfl, h⟩
  · next f4 =>
    rw [if_pos (by omega)]
    exact ⟨0x80, 0x8F, rfl, h.1, beyond (by omega)⟩

/-! ## Characters -/

theorem readChar_one (halves : Bool) {n : Nat} (h : n < 0x80) (rest : Bytes) :
    ∃ r, readChar halves (UInt8.ofNat n) rest = .ok (Char.ofNat n, r) ∧ r.val = rest := by
  have value := toNat_ofNat (n := n) (by omega)
  have first := following_eq (UInt8.ofNat n)
  have bits := leadBits_eq (UInt8.ofNat n)
  rw [value, if_pos h] at first bits
  obtain ⟨r, read, left⟩ := @readChar_eq_ok halves _ rest _ _ first rfl
  rw [bits] at read
  exact ⟨r, read, left⟩

theorem readChar_two (halves : Bool) {n : Nat} (h : 0x80 ≤ n ∧ n < 0x800) (rest : Bytes) :
    ∃ r, readChar halves (UInt8.ofNat (n / 64 % 0x20 + 0xc0))
        (UInt8.ofNat (n % 0x40 + 0x80) :: rest) = .ok (Char.ofNat n, r) ∧ r.val = rest := by
  have any : (0x80 : UInt8).toNat = 0x80 ∧ (0xBF : UInt8).toNat = 0xBF := ⟨rfl, rfl⟩
  have value := toNat_ofNat (n := n / 64 % 0x20 + 0xc0) (by omega)
  have first := following_eq (UInt8.ofNat (n / 64 % 0x20 + 0xc0))
  have bits := leadBits_eq (UInt8.ofNat (n / 64 % 0x20 + 0xc0))
  rw [value, if_neg (by omega), if_neg (by omega), if_pos (by omega)] at first
  rw [value, if_neg (by omega), if_pos (by omega)] at bits
  have total : (n / 64 % 0x20 + 0xc0) % 0x20 * 0x40 + n % 0x40 = n := by omega
  obtain ⟨r, read, left⟩ := readChar_eq_ok halves first (readTail_six 0 n [] rest (by omega))
  rw [bits, total] at read
  exact ⟨r, read, left⟩

theorem readChar_three (halves : Bool) {n : Nat} (h : 0x800 ≤ n ∧ n < 0x10000)
    (noHalf : n < 0xD800 ∨ 0xDFFF < n) (rest : Bytes) :
    ∃ r, readChar halves (UInt8.ofNat (n / 4096 % 0x10 + 0xe0))
        (UInt8.ofNat (n / 64 % 0x40 + 0x80) :: UInt8.ofNat (n % 0x40 + 0x80) :: rest)
          = .ok (Char.ofNat n, r) ∧ r.val = rest := by
  have any : (0x80 : UInt8).toNat = 0x80 ∧ (0xBF : UInt8).toNat = 0xBF := ⟨rfl, rfl⟩
  have value := toNat_ofNat (n := n / 4096 % 0x10 + 0xe0) (by omega)
  have bits := leadBits_eq (UInt8.ofNat (n / 4096 % 0x10 + 0xe0))
  rw [value, if_neg (by omega), if_neg (by omega), if_pos (by omega)] at bits
  obtain ⟨low, high, first, range⟩ := following_three (n / 64 % 0x40 + 0x80)
    (b := UInt8.ofNat (n / 4096 % 0x10 + 0xe0)) (by omega) (by omega) (by omega) (by omega)
  have total : ((n / 4096 % 0x10 + 0xe0) % 0x10 * 0x40 + n / 64 % 0x40) * 0x40 + n % 0x40 = n := by
    omega
  obtain ⟨r, read, left⟩ := readChar_eq_ok halves first
    ((readTail_six 0 (n / 64) _ _ range).trans (readTail_six 1 n [] rest (by omega)))
  rw [bits, total] at read
  exact ⟨r, read, left⟩

theorem readChar_four (halves : Bool) {n : Nat} (h : 0x10000 ≤ n ∧ n < 0x110000) (rest : Bytes) :
    ∃ r, readChar halves (UInt8.ofNat (n / 262144 % 0x08 + 0xf0))
        (UInt8.ofNat (n / 4096 % 0x40 + 0x80) :: UInt8.ofNat (n / 64 % 0x40 + 0x80)
          :: UInt8.ofNat (n % 0x40 + 0x80) :: rest) = .ok (Char.ofNat n, r) ∧ r.val = rest := by
  have any : (0x80 : UInt8).toNat = 0x80 ∧ (0xBF : UInt8).toNat = 0xBF := ⟨rfl, rfl⟩
  have value := toNat_ofNat (n := n / 262144 % 0x08 + 0xf0) (by omega)
  have bits := leadBits_eq (UInt8.ofNat (n / 262144 % 0x08 + 0xf0))
  rw [value, if_neg (by omega), if_neg (by omega), if_neg (by omega)] at bits
  obtain ⟨low, high, first, range⟩ := following_four (n / 4096 % 0x40 + 0x80)
    (b := UInt8.ofNat (n / 262144 % 0x08 + 0xf0)) (by omega) (by omega) (by omega) (by omega)
  have total : (((n / 262144 % 0x08 + 0xf0) % 0x08 * 0x40 + n / 4096 % 0x40) * 0x40
      + n / 64 % 0x40) * 0x40 + n % 0x40 = n := by omega
  obtain ⟨r, read, left⟩ := readChar_eq_ok halves first
    ((readTail_six 0 (n / 4096) _ _ range).trans
      ((readTail_six 1 (n / 64) _ _ (by omega)).trans (readTail_six 2 n [] rest (by omega))))
  rw [bits, total] at read
  exact ⟨r, read, left⟩

/-- The bytes of a character are read as that character. -/
theorem readChar_utf8EncodeChar (halves : Bool) (c : Char) (rest : Bytes) :
    ∃ b more, String.utf8EncodeChar c = b :: more ∧
      ∃ r, readChar halves b (more ++ rest) = .ok (c, r) ∧ r.val = rest := by
  -- A character is no surrogate, which is what the spelling in three bytes needs.
  have valid : c.toNat < 0xD800 ∨ 0xDFFF < c.toNat ∧ c.toNat < 0x110000 := c.valid
  have size : c.val.toNat = c.toNat := rfl
  have back : Char.ofNat c.toNat = c := Char.ofNat_toNat c
  unfold String.utf8EncodeChar
  simp only [size]
  split
  · have read := readChar_one halves (n := c.toNat) (by omega) rest
    rw [back] at read
    exact ⟨_, _, rfl, read⟩
  split
  · have read := readChar_two halves (n := c.toNat) (by omega) rest
    rw [back] at read
    exact ⟨_, _, rfl, read⟩
  split
  · have read := readChar_three halves (n := c.toNat) (by omega) (by omega) rest
    rw [back] at read
    exact ⟨_, _, rfl, read⟩
  · have read := readChar_four halves (n := c.toNat) (by omega) rest
    rw [back] at read
    exact ⟨_, _, rfl, read⟩

/-! ## Texts -/

theorem decodeFrom_flatMap (halves : Bool) (acc : List Char) (offset : Nat) (cs : List Char) :
    decodeFrom halves acc offset (cs.flatMap String.utf8EncodeChar) = .ok (acc.reverse ++ cs) := by
  induction cs generalizing acc offset with
  | nil => simp [decodeFrom]
  | cons c cs ih =>
    obtain ⟨b, more, bytes, r, read, left⟩ :=
      readChar_utf8EncodeChar halves c (cs.flatMap String.utf8EncodeChar)
    rw [List.flatMap_cons, bytes, List.cons_append, decodeFrom, read]
    simp only [left, ih]
    simp

/-- The bytes of a text are read as that text. -/
theorem decode_encode (halves : Bool) (cs : List Char) :
    decode halves (encode (String.ofList cs)) = .ok cs := by
  rw [encode_ofList, decode, decodeFrom_flatMap]
  rfl

end LedgerGateway.Text.Utf8

namespace LedgerGateway.Text

open LedgerGateway.Hex (Bytes)

/-! ## Detection -/

theorem ofNat_ne_zero {n : Nat} (h : 0 < n ∧ n < 256) : UInt8.ofNat n ≠ 0 := by
  intro eq
  have value := Utf8.toNat_ofNat h.2
  rw [eq] at value
  exact absurd value (by simp; omega)

theorem utf8EncodeChar_ne_zero {c : Char} (h : c ≠ '\x00') :
    ∀ b ∈ String.utf8EncodeChar c, b ≠ 0 := by
  have positive : c.val.toNat ≠ 0 := by
    intro zero
    exact h (Char.ext (UInt32.toNat_inj.1 zero))
  unfold String.utf8EncodeChar
  simp only
  intro b mem
  split at mem
  · obtain rfl := List.mem_singleton.1 mem
    exact ofNat_ne_zero (by omega)
  split at mem
  · simp only [List.mem_cons, List.not_mem_nil, or_false] at mem
    obtain rfl | rfl := mem <;> exact ofNat_ne_zero (by omega)
  split at mem
  · simp only [List.mem_cons, List.not_mem_nil, or_false] at mem
    obtain rfl | rfl | rfl := mem <;> exact ofNat_ne_zero (by omega)
  · simp only [List.mem_cons, List.not_mem_nil, or_false] at mem
    obtain rfl | rfl | rfl | rfl := mem <;> exact ofNat_ne_zero (by omega)

theorem utf8EncodeChar_ascii {c : Char} (h : c.toNat < 0x80) :
    String.utf8EncodeChar c = [UInt8.ofNat c.toNat] := by
  unfold String.utf8EncodeChar
  exact if_pos (Nat.le_of_lt_succ h)

theorem ofMark?_eq_none {b : UInt8} {rest : Bytes} (ascii : b < 0x80) (noZero : b ≠ 0) :
    Encoding.ofMark? (b :: rest) = none := by
  unfold Encoding.ofMark?
  split
  · next eq => exact absurd (List.cons.inj eq).1 noZero
  · next eq => exact absurd ascii (by rw [(List.cons.inj eq).1]; decide)
  · next eq => exact absurd ascii (by rw [(List.cons.inj eq).1]; decide)
  · next eq => exact absurd ascii (by rw [(List.cons.inj eq).1]; decide)
  · next eq => exact absurd ascii (by rw [(List.cons.inj eq).1]; decide)
  · rfl

theorem ofZeros_eq {bytes : Bytes} (noZero : ∀ x ∈ bytes, x ≠ 0) :
    Encoding.ofZeros bytes = .utf8 false := by
  unfold Encoding.ofZeros
  split
  · rw [if_neg (noZero _ (by simp)), if_neg (noZero _ (by simp))]
  · rw [if_neg (noZero _ (by simp)), if_neg (noZero _ (by simp))]
  · rfl

/-- A text that begins in ASCII and holds no zero is taken for UTF-8 without a mark. -/
theorem decodeDetected_encode {c : Char} {cs : List Char} (ascii : c.toNat < 0x80)
    (noZero : ∀ x ∈ c :: cs, x ≠ '\x00') :
    decodeDetected (Utf8.encode (String.ofList (c :: cs))) = .ok (c :: cs) := by
  have noZeroByte : ∀ b ∈ Utf8.encode (String.ofList (c :: cs)), b ≠ 0 := by
    rw [Utf8.encode_ofList]
    intro b mem
    obtain ⟨x, mem', mem⟩ := List.mem_flatMap.1 mem
    exact utf8EncodeChar_ne_zero (noZero x mem') b mem
  -- Every other encoding would show in a zero byte or in a first byte beyond ASCII.
  have detected : Encoding.detect (Utf8.encode (String.ofList (c :: cs))) = .utf8 false := by
    rw [Encoding.detect, ofZeros_eq noZeroByte]
    rw [Utf8.encode_ofList, List.flatMap_cons, utf8EncodeChar_ascii ascii] at noZeroByte ⊢
    rw [List.singleton_append, ofMark?_eq_none]
    · rfl
    · rw [UInt8.lt_iff_toNat_lt, Utf8.toNat_ofNat (by omega)]
      exact ascii
    · exact noZeroByte _ (by simp)
  rw [decodeDetected, detected]
  exact Utf8.decode_encode true (c :: cs)

end LedgerGateway.Text
