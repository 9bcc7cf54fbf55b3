import LedgerGateway.Proofs.Utf8Spelling

/-!
# Only UTF-8 is read

What the reader takes for the bytes of a text is UTF-8, so a byte string is refused exactly if no
text has it for its bytes. The ranges of the bytes behind the first one leave out every long way to
spell a character, and what they let through is spelt in one way.

* `readChar_spelt` — the bytes that are read as a character are the ones that spell it.
* `decode_eq_ok_iff` — a byte string is read as a text exactly if it is the bytes of the text.
-/

namespace LedgerGateway.Text.Utf8

open LedgerGateway.Hex (Bytes)

/-! ## Bytes -/

/-- A byte behind the first one lies in its range, and gives six bits. -/
theorem readTail_cons {low high : UInt8} {ranges : List (UInt8 × UInt8)} {count bits n : Nat}
    {bytes : Bytes} (h : readTail ((low, high) :: ranges) count bits bytes = .ok n) :
    ∃ x rest, bytes = x :: rest ∧ low.toNat ≤ x.toNat ∧ x.toNat ≤ high.toNat ∧
      readTail ranges (count + 1) (bits * 0x40 + x.toNat % 0x40) rest = .ok n := by
  cases bytes with
  | nil => cases h
  | cons x rest =>
    rw [readTail] at h
    split at h
    · next range =>
      rw [UInt8.le_iff_toNat_le, UInt8.le_iff_toNat_le] at range
      exact ⟨x, rest, rfl, range.1, range.2, h⟩
    · cases h

theorem readTail_nil {count bits n : Nat} {bytes : Bytes}
    (h : readTail [] count bits bytes = .ok n) : bits = n := Except.ok.inj h

theorem ofNat_eq {b : UInt8} {n : Nat} (h : b.toNat = n) : UInt8.ofNat n = b := by
  rw [← h, UInt8.ofNat_toNat]

/-! ## Characters -/

theorem toNat_charOfNat {n : Nat} (h : n < 0xD800 ∨ 0xDFFF < n ∧ n < 0x110000) :
    (Char.ofNat n).val.toNat = n := by
  have valid : n.isValidChar := h
  rw [Char.ofNat, dif_pos valid]
  rfl

section Spellings

variable {n : Nat}

theorem encode_one (h : n < 0x80) : String.utf8EncodeChar (Char.ofNat n) = [UInt8.ofNat n] := by
  simp only [String.utf8EncodeChar, toNat_charOfNat (n := n) (by omega)]
  rw [if_pos (by omega)]

theorem encode_two (h : 0x80 ≤ n ∧ n < 0x800) :
    String.utf8EncodeChar (Char.ofNat n) =
      [UInt8.ofNat (n / 64 % 0x20 + 0xc0), UInt8.ofNat (n % 0x40 + 0x80)] := by
  simp only [String.utf8EncodeChar, toNat_charOfNat (n := n) (by omega)]
  rw [if_neg (by omega), if_pos (by omega)]

theorem encode_three (h : 0x800 ≤ n ∧ n < 0x10000) (noHalf : n < 0xD800 ∨ 0xDFFF < n) :
    String.utf8EncodeChar (Char.ofNat n) =
      [UInt8.ofNat (n / 4096 % 0x10 + 0xe0), UInt8.ofNat (n / 64 % 0x40 + 0x80),
        UInt8.ofNat (n % 0x40 + 0x80)] := by
  simp only [String.utf8EncodeChar, toNat_charOfNat (n := n) (by omega)]
  rw [if_neg (by omega), if_neg (by omega), if_pos (by omega)]

theorem encode_four (h : 0x10000 ≤ n ∧ n < 0x110000) :
    String.utf8EncodeChar (Char.ofNat n) =
      [UInt8.ofNat (n / 262144 % 0x08 + 0xf0), UInt8.ofNat (n / 4096 % 0x40 + 0x80),
        UInt8.ofNat (n / 64 % 0x40 + 0x80), UInt8.ofNat (n % 0x40 + 0x80)] := by
  simp only [String.utf8EncodeChar, toNat_charOfNat (n := n) (by omega)]
  rw [if_neg (by omega), if_neg (by omega), if_neg (by omega)]

end Spellings

/-- The ranges behind a first byte, with what they leave out. -/
theorem following_cases {b : UInt8} {ranges : List (UInt8 × UInt8)}
    (h : following b = some ranges) :
    (b.toNat < 0x80 ∧ ranges = []) ∨
      (0xC2 ≤ b.toNat ∧ b.toNat < 0xE0 ∧ ranges = [(0x80, 0xBF)]) ∨
      (0xE0 ≤ b.toNat ∧ b.toNat < 0xF0 ∧ ∃ low high : UInt8, ranges = [(low, high), (0x80, 0xBF)] ∧
        0x80 ≤ low.toNat ∧ high.toNat ≤ 0xBF ∧ (b.toNat = 0xE0 → 0xA0 ≤ low.toNat) ∧
        (b.toNat = 0xED → high.toNat ≤ 0x9F)) ∨
      (0xF0 ≤ b.toNat ∧ b.toNat < 0xF5 ∧
        ∃ low high : UInt8, ranges = [(low, high), (0x80, 0xBF), (0x80, 0xBF)] ∧
          0x80 ≤ low.toNat ∧ high.toNat ≤ 0xBF ∧ (b.toNat = 0xF0 → 0x90 ≤ low.toNat) ∧
          (b.toNat = 0xF4 → high.toNat ≤ 0x8F)) := by
  rw [following_eq] at h
  split at h
  · next one => exact .inl ⟨one, (Option.some.inj h).symm⟩
  split at h
  · cases h
  split at h
  · next two => exact .inr (.inl ⟨by omega, two, (Option.some.inj h).symm⟩)
  -- What begins like three or four bytes has ranges of its own for some first bytes.
  split at h
  · next e0 =>
    exact .inr (.inr (.inl ⟨by omega, by omega, 0xA0, 0xBF, (Option.some.inj h).symm, by decide,
      by decide, fun _ => by decide, by omega⟩))
  split at h
  · next ed =>
    exact .inr (.inr (.inl ⟨by omega, by omega, 0x80, 0x9F, (Option.some.inj h).symm, by decide,
      by decide, by omega, fun _ => by decide⟩))
  split at h
  · next three =>
    exact .inr (.inr (.inl ⟨by omega, three, 0x80, 0xBF, (Option.some.inj h).symm, by decide,
      by decide, by omega, by omega⟩))
  split at h
  · next f0 =>
    exact .inr (.inr (.inr ⟨by omega, by omega, 0x90, 0xBF, (Option.some.inj h).symm, by decide,
      by decide, fun _ => by decide, by omega⟩))
  split at h
  · next four =>
    exact .inr (.inr (.inr ⟨by omega, by omega, 0x80, 0xBF, (Option.some.inj h).symm, by decide,
      by decide, by omega, by omega⟩))
  split at h
  · next f4 =>
    exact .inr (.inr (.inr ⟨by omega, by omega, 0x80, 0x8F, (Option.some.inj h).symm, by decide,
      by decide, by omega, fun _ => by decide⟩))
  · cases h

/-- The bytes behind the first one spell the character that their bits give. -/
theorem readTail_spelt {b : UInt8} {ranges : List (UInt8 × UInt8)} {rest : Bytes} {n : Nat}
    (first : following b = some ranges) (others : readTail ranges 0 (leadBits b) rest = .ok n) :
    b :: rest = String.utf8EncodeChar (Char.ofNat n) ++ rest.drop ranges.length := by
  have any : (0x80 : UInt8).toNat = 0x80 ∧ (0xBF : UInt8).toNat = 0xBF := ⟨rfl, rfl⟩
  have bits := leadBits_eq b
  obtain ⟨one, rfl⟩ | ⟨above, two, rfl⟩ |
      ⟨above, three, low, high, rfl, least, most, long, half⟩ |
      ⟨above, four, low, high, rfl, least, most, long, beyond⟩ := following_cases first
  · rw [if_pos one] at bits
    obtain rfl := readTail_nil others
    rw [bits, encode_one one, ofNat_eq rfl]
    rfl
  · rw [if_neg (by omega), if_pos two] at bits
    obtain ⟨x, rest, rfl, lx, xh, others⟩ := readTail_cons others
    obtain rfl := readTail_nil others
    rw [bits, encode_two (by omega), ofNat_eq (b := b) (by omega), ofNat_eq (b := x) (by omega)]
    rfl
  · rw [if_neg (by omega), if_neg (by omega), if_pos three] at bits
    obtain ⟨x, rest, rfl, lx, xh, others⟩ := readTail_cons others
    obtain ⟨y, rest, rfl, ly, yh, others⟩ := readTail_cons others
    obtain rfl := readTail_nil others
    rw [bits, encode_three (by omega) (by omega), ofNat_eq (b := b) (by omega),
      ofNat_eq (b := x) (by omega), ofNat_eq (b := y) (by omega)]
    rfl
  · rw [if_neg (by omega), if_neg (by omega), if_neg (by omega)] at bits
    obtain ⟨x, rest, rfl, lx, xh, others⟩ := readTail_cons others
    obtain ⟨y, rest, rfl, ly, yh, others⟩ := readTail_cons others
    obtain ⟨z, rest, rfl, lz, zh, others⟩ := readTail_cons others
    obtain rfl := readTail_nil others
    rw [bits, encode_four (by omega), ofNat_eq (b := b) (by omega),
      ofNat_eq (b := x) (by omega), ofNat_eq (b := y) (by omega), ofNat_eq (b := z) (by omega)]
    rfl

/-- The bytes that are read as a character are the ones that spell it. -/
theorem readChar_spelt {b : UInt8} {rest : Bytes} {c : Char} {r : ShorterBytes (b :: rest)}
    (h : readChar false b rest = .ok (c, r)) :
    b :: rest = String.utf8EncodeChar c ++ r.val := by
  unfold readChar at h
  cases first : following b with
  | none =>
    simp only [first] at h
    cases h
  | some ranges =>
    simp only [first] at h
    cases others : readTail ranges 0 (leadBits b) rest with
    | error problem =>
      simp only [others, Bool.false_and, Bool.false_eq_true, if_false] at h
      cases h
    | ok n =>
      simp only [others, Except.ok.injEq, Prod.mk.injEq] at h
      obtain ⟨rfl, rfl⟩ := h
      exact readTail_spelt first others

/-! ## Texts -/

/-- What is read from a byte string is spelt by it, behind the characters read before. -/
theorem decodeFrom_spelt {bytes : Bytes} (acc : List Char) (offset : Nat) {cs : List Char}
    (h : decodeFrom false acc offset bytes = .ok cs) :
    ∃ tail, cs = acc.reverse ++ tail ∧ bytes = tail.flatMap String.utf8EncodeChar := by
  -- The rest behind a character is no tail of the list by its form, so the induction is on length.
  induction size : bytes.length using Nat.strongRecOn generalizing bytes acc offset with
  | _ size ih =>
    cases bytes with
    | nil =>
      rw [decodeFrom] at h
      exact ⟨[], by rw [List.append_nil, Except.ok.inj h], rfl⟩
    | cons b rest =>
      rw [decodeFrom] at h
      cases read : readChar false b rest with
      | error fault =>
        rw [read] at h
        cases h
      | ok found =>
        obtain ⟨c, left, shorter⟩ := found
        rw [read] at h
        obtain ⟨tail, rfl, spelt⟩ := ih left.length (by rw [← size]; exact shorter) _ _ h rfl
        refine ⟨c :: tail, by simp, ?_⟩
        rw [readChar_spelt read, List.flatMap_cons, ← spelt]

/-- **Which byte strings are texts.** The bytes of a text are read as the text, and no others. -/
theorem decode_eq_ok_iff {bytes : Bytes} {cs : List Char} :
    decode false bytes = .ok cs ↔ bytes = encode (String.ofList cs) := by
  constructor
  · intro h
    obtain ⟨tail, rfl, spelt⟩ := decodeFrom_spelt [] 0 h
    rw [encode_ofList]
    exact spelt
  · rintro rfl
    exact decode_encode false cs

theorem decode_encode_toList (s : String) : decode false (encode s) = .ok s.toList := by
  have read := decode_encode false s.toList
  rwa [String.ofList_toList] at read

/-- A byte string is the bytes of one text at most. -/
theorem encode_injective {s t : String} (h : encode s = encode t) : s = t := by
  have same : decode false (encode s) = decode false (encode t) := by rw [h]
  rw [decode_encode_toList, decode_encode_toList, Except.ok.injEq] at same
  exact String.toList_injective same

/-- A byte string is refused if it is the bytes of no text. -/
theorem decode_error_iff {bytes : Bytes} :
    (∃ fault, decode false bytes = .error fault) ↔ ∀ s, bytes ≠ encode s := by
  constructor
  · rintro ⟨fault, refused⟩ s rfl
    rw [decode_encode_toList] at refused
    cases refused
  · intro none
    cases read : decode false bytes with
    | error fault => exact ⟨fault, rfl⟩
    | ok cs => exact absurd (decode_eq_ok_iff.1 read) (none _)

end LedgerGateway.Text.Utf8
