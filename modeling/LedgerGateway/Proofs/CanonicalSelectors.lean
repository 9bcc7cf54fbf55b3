import LedgerGateway.Proofs.BlockSelectors

/-!
# One text for each block key

A key is written in one way and read from several texts: the digits of a hash may be of either case,
and those of a number of either case and with zeros in front. Two texts select the same block
exactly if they differ in no more than that.

* `parse_text` — what is written is read back.
* `SameSelector` — texts that differ in the case of a hash or in the digits of one number alone.
* `selectors_canonical` — keys are read back from their texts, and are equal if their texts are and
  if the texts that they were read from are the same selector.
* `quantities_agree` — a quantity is the one text of its number. As a selector it is that number as
  long as it is below 2 ^ 64, then invalid, but for the ones that have the length of a hash.
-/

namespace LedgerGateway.BlockKey

open Hex (Bytes Minimal Numeral)

/-! ## Forms of selectors -/

/-- The text is `0x` and the 64 digits of a hash. -/
def IsHash (s : String) : Prop :=
  ∃ ds, s.toList = '0' :: 'x' :: ds ∧ ds.length = 64 ∧ ∀ c ∈ ds, Hex.isDigit c = true

/-- The text is `0x` and digits that have the number for their value, of any count but that of a
hash. -/
def IsNumber (s : String) (n : Nat) : Prop :=
  ∃ ds, s.toList = '0' :: 'x' :: ds ∧ ds ≠ [] ∧ ds.length ≠ 64 ∧ Numeral ds n

/-- The characters of the texts differ in case alone. -/
def SameLetters (r s : String) : Prop := r.toList.map Char.toLower = s.toList.map Char.toLower

/-- The texts are the same tag, the same hash up to letter case, or digits of the same number. -/
inductive SameSelector (r s : String) : Prop where
  | tag : r = s → r = "latest" ∨ r = "pending" → SameSelector r s
  | hash : IsHash r → IsHash s → SameLetters r s → SameSelector r s
  | number {n : Nat} : IsNumber r n → IsNumber s n → SameSelector r s

/-- The form of a text that is read as a key, for each kind of key. -/
inductive Form (s : String) : BlockKey → Prop where
  | latest : s = "latest" → Form s .latest
  | pending : s = "pending" → Form s .pending
  | number {n : UInt64} : IsNumber s n.toNat → Form s (.number n)
  | hash {h : BlockHash} : IsHash s → Form s (.hash h)

section Parsed

variable {depth : Nat} {r s : String} {key key' : BlockKey}

theorem form_of_parse (h : parse depth (.string s) = .ok key) : Form s key := by
  rcases parse_eq_ok_iff.1 h with selects | ⟨n, ⟨s', ds, text, marked, long, numeral⟩, rfl⟩
  · cases selects with
    | latest => exact .latest rfl
    | pending => exact .pending rfl
    | hash marked long digits pairs => exact .hash ⟨_, marked, long, digits⟩
    | @number _ ds _ marked some_ short numeral =>
      exact .number ⟨ds, marked, List.length_pos_iff.1 some_, by omega, numeral⟩
  · obtain rfl := Json.string.inj text
    exact .number ⟨ds, marked, List.length_pos_iff.1 (by omega), by omega, numeral⟩

theorem form_of_parseText (h : parseText s = .ok key) : Form s key :=
  @form_of_parse 0 _ _ (parse_string_eq_ok_iff.2 h)

/-- Behind the mark the digits are parsed. -/
theorem parse_marked_iff {ds : List Char} (marked : s.toList = '0' :: 'x' :: ds) :
    parse depth (.string s) = .ok key ↔ ofDigits? ds = some key :=
  parse_eq_ok_iff.trans (selects_marked_iff marked).symm

/-- Digits of a number are read as no other number, and as no hash. -/
theorem IsNumber.parsed {n : Nat} (number : IsNumber s n) (h : parse depth (.string s) = .ok key) :
    ∃ m : UInt64, m.toNat = n ∧ key = .number m := by
  obtain ⟨ds, marked, -, other, numeral⟩ := number
  obtain ⟨-, m, numeral', rfl⟩ := (ofDigits?_number other).1 ((parse_marked_iff marked).1 h)
  rw [← Hex.value?_eq_some_iff] at numeral numeral'
  exact ⟨m, Option.some.inj (numeral'.symm.trans numeral), rfl⟩

/-- The digits of a hash are read as its bytes, which are written in lower case. -/
theorem IsHash.parsed (hash : IsHash s) (h : parse depth (.string s) = .ok key) :
    ∃ b : BlockHash, key = .hash b ∧
      s.toList.map Char.toLower = '0' :: 'x' :: b.bytes.flatMap Hex.byteDigits := by
  obtain ⟨ds, marked, long, digits⟩ := hash
  obtain ⟨-, b, pairs, rfl⟩ := (ofDigits?_hash long).1 ((parse_marked_iff marked).1 h)
  refine ⟨b, rfl, ?_⟩
  rw [marked, List.map_cons, List.map_cons, pairs.map_toLower digits]
  rfl

/-- Texts select the same block if they differ in case or in zeros alone. -/
theorem eq_iff_sameSelector (hr : parse depth (.string r) = .ok key)
    (hs : parse depth (.string s) = .ok key') : key = key' ↔ SameSelector r s := by
  constructor
  · rintro rfl
    cases form_of_parse hr with
    | latest latest =>
      cases form_of_parse hs with
      | latest latest' => exact .tag (latest.trans latest'.symm) (.inl latest)
    | pending pending =>
      cases form_of_parse hs with
      | pending pending' => exact .tag (pending.trans pending'.symm) (.inr pending)
    | number number =>
      cases form_of_parse hs with
      | number number' => exact .number number number'
    | hash hash =>
      cases form_of_parse hs with
      | hash hash' =>
        obtain ⟨b, same, lower⟩ := hash.parsed hr
        obtain ⟨b', same', lower'⟩ := hash'.parsed hs
        obtain rfl := BlockKey.hash.inj (same.symm.trans same')
        exact .hash hash hash' (lower.trans lower'.symm)
  · rintro (⟨rfl, -⟩ | ⟨hash, hash', letters⟩ | ⟨number, number'⟩)
    · exact Except.ok.inj (hr.symm.trans hs)
    · obtain ⟨b, rfl, lower⟩ := hash.parsed hr
      obtain ⟨b', rfl, lower'⟩ := hash'.parsed hs
      have same := (lower.symm.trans letters).trans lower'
      simp only [List.cons.injEq, true_and] at same
      obtain ⟨bytes, length⟩ := b
      obtain ⟨bytes', length'⟩ := b'
      obtain rfl : bytes = bytes' := Hex.flatMap_byteDigits_inj same
      rfl
    · obtain ⟨m, value, rfl⟩ := number.parsed hr
      obtain ⟨m', value', rfl⟩ := number'.parsed hs
      rw [UInt64.toNat_inj.1 (value.trans value'.symm)]

/-- A number is never the key of a hash, whatever the value of its digits. -/
theorem ne_of_isNumber_isHash {n : Nat} (number : IsNumber r n) (hash : IsHash s)
    (hr : parse depth (.string r) = .ok key) (hs : parse depth (.string s) = .ok key') : key ≠ key' := by
  obtain ⟨m, -, rfl⟩ := number.parsed hr
  obtain ⟨b, rfl, -⟩ := hash.parsed hs
  simp

end Parsed

/-! ## Keys and their texts -/

theorem length_digits_of_lt {n : Nat} (small : n < 2 ^ 64) : (Hex.digits n).length ≤ 16 :=
  (Hex.length_digits_le_iff (by decide)).2 small

/-- A key is read back from its text. -/
theorem parse_text (depth : Nat) (key : BlockKey) : parse depth (.string key.text) = .ok key := by
  cases key with
  | latest => rfl
  | pending => rfl
  | number n =>
    have short := length_digits_of_lt n.toNat_lt
    refine (parse_marked_iff (Hex.toList_marked _)).2 ((ofDigits?_number (by omega)).2 ?_)
    exact ⟨Hex.digits_ne_nil _, n, Hex.value?_eq_some_iff.1 (Hex.value?_digits _), rfl⟩
  | hash h =>
    have long : (h.bytes.flatMap Hex.byteDigits).length = 64 := by
      rw [Hex.length_flatMap_byteDigits, h.length_eq]
    refine (parse_marked_iff (Hex.toList_marked_encode _)).2 ((ofDigits?_hash long).2 ?_)
    exact ⟨fun c => Hex.isDigit_of_mem_flatMap, h,
      Hex.pairs_of_readPairs _ 0 _ (Hex.readPairs_flatMap_byteDigits _ _), rfl⟩

/-- Different keys have different texts. -/
theorem text_inj {key key' : BlockKey} : key.text = key'.text ↔ key = key' := by
  refine ⟨fun same => ?_, fun same => same ▸ rfl⟩
  have read := parse_text 0 key
  rw [same, parse_text 0 key'] at read
  exact (Except.ok.inj read).symm

theorem atNumber_of_lt {n : Nat} (small : n < 2 ^ 64) :
    atNumber n = .ok (.number (UInt64.ofNat n)) := by
  have within : (0 : Int) ≤ n ∧ (n : Int) < UInt64.size := by
    have size : UInt64.size = 2 ^ 64 := rfl
    omega
  rw [atNumber, if_pos within, Int.toNat_natCast]

theorem atHash_of_length {bytes : Bytes} (length : bytes.length = 32) :
    atHash bytes = .ok (.hash ⟨bytes, length⟩) := by
  rw [atHash, dif_pos length]

/-- The key is read back from its text. -/
def ReadBack (key : BlockKey) : Prop := ∀ depth, parse depth (.string key.text) = .ok key

/-- The keys of two texts are equal exactly if they have one text, and exactly if the texts are the
same selector; a number and a hash are never equal. -/
structure Canonical (r s : String) (key key' : BlockKey) : Prop where
  text : key = key' ↔ key.text = key'.text
  selector : key = key' ↔ SameSelector r s
  apart : ∀ n, IsNumber r n → IsHash s → key ≠ key'

/-- **Keys and texts determine each other.** Every key that can be built is read back from its text,
and what is read from any two texts is canonical. -/
theorem selectors_canonical :
    ReadBack .latest ∧ ReadBack .pending ∧
      (∀ n : Int, 0 ≤ n → n < 2 ^ 64 → ∃ key, atNumber n = .ok key ∧ ReadBack key) ∧
      (∀ bytes : Bytes, bytes.length = 32 → ∃ key, atHash bytes = .ok key ∧ ReadBack key) ∧
      ∀ depth r s key key', parse depth (.string r) = .ok key → parse depth (.string s) = .ok key' →
        Canonical r s key key' := by
  have readBack (key : BlockKey) : ReadBack key := fun depth => parse_text depth key
  refine ⟨readBack _, readBack _, fun n natural small => ?_, fun bytes length => ?_, ?_⟩
  · obtain ⟨m, rfl⟩ := Int.eq_ofNat_of_zero_le natural
    exact ⟨_, atNumber_of_lt (by omega), readBack _⟩
  · exact ⟨_, atHash_of_length length, readBack _⟩
  · intro depth r s key key' hr hs
    exact ⟨text_inj.symm, eq_iff_sameSelector hr hs,
      fun _ number hash => ne_of_isNumber_isHash number hash hr hs⟩

/-- The hash of zeros alone. -/
def zeroHash : BlockHash := ⟨List.replicate 32 0, rfl⟩

/-- The digit zero and the hash of 64 zeros have one value, and stand for different blocks. -/
theorem selectors_canonical_zeros :
    parse 0 (.string "0x0") = .ok (.number 0) ∧
      parse 0 (.string (text (.hash zeroHash))) = .ok (.hash zeroHash) ∧
      Canonical "0x0" (text (.hash zeroHash)) (.number 0) (.hash zeroHash) :=
  ⟨rfl, parse_text _ _, selectors_canonical.2.2.2.2 0 _ _ _ _ rfl (parse_text _ _)⟩

/-! ## Quantities as selectors -/

/-- A quantity has the length of a hash from the first number of 64 digits on up to the last. -/
theorem length_digits_eq_hash_iff {n : Nat} :
    (Hex.digits n).length = 64 ↔ 16 ^ 63 ≤ n ∧ n < 16 ^ 64 := by
  have most : (Hex.digits n).length ≤ 64 ↔ n < 16 ^ 64 := Hex.length_digits_le_iff (by decide)
  have fewer : (Hex.digits n).length ≤ 63 ↔ n < 16 ^ 63 := Hex.length_digits_le_iff (by decide)
  rw [← Nat.not_lt, ← fewer, ← most]
  omega

section Large

variable {depth n : Nat}

/-- With the length of a hash a quantity is read as one. -/
theorem parse_quantity_of_hash (long : (Hex.digits n).length = 64) :
    ∃ h, parse depth (.string (Hex.quantity n)) = .ok (.hash h) := by
  have digits : ∀ c ∈ Hex.digits n, Hex.isDigit c = true := fun c mem =>
    Hex.isDigit_of_lower (Hex.mem_digits_lower n c mem)
  obtain ⟨bytes, pairs, length⟩ := Hex.exists_pairs _ (by rw [long]) digits
  refine ⟨⟨bytes, by omega⟩, (parse_marked_iff (Hex.toList_marked _)).2 ?_⟩
  exact (ofDigits?_hash long).2 ⟨digits, _, pairs, rfl⟩

/-- From 2 ^ 64 on a quantity of any other length is no selector. -/
theorem parse_quantity_of_large (large : 2 ^ 64 ≤ n) (other : (Hex.digits n).length ≠ 64) :
    parse depth (.string (Hex.quantity n)) =
      .error (.fault ⟨.invalid, .string (Hex.quantity n)⟩) := by
  have marked : (Hex.quantity n).toList = '0' :: 'x' :: Hex.digits n := Hex.toList_marked _
  rcases parse_cases depth (.string (Hex.quantity n)) with ⟨key, read⟩ | unsupported | invalid
  · obtain ⟨-, m, numeral, -⟩ := (ofDigits?_number other).1 ((parse_marked_iff marked).1 read)
    rw [← Hex.value?_eq_some_iff, Hex.value?_digits, Option.some.injEq] at numeral
    have small := m.toNat_lt
    omega
  · exact absurd marked ((parse_unsupported_iff.1 unsupported).unmarked _)
  · exact invalid

end Large

/-- The text is the only quantity of the number. Below 2 ^ 64 it selects the block of that number,
whose key has it for its text. From there on it selects by hash if it has the length of one, and is
invalid otherwise. -/
structure AgreesWithSelectors (depth n : Nat) (text : String) : Prop where
  only : ∀ s, (∃ ds, s.toList = '0' :: 'x' :: ds ∧ Minimal ds ∧ Numeral ds n) ↔ s = text
  number : n < 2 ^ 64 →
    ∃ key, atNumber n = .ok key ∧ parse depth (.string text) = .ok key ∧ key.text = text
  noNumber : 2 ^ 64 ≤ n → ∀ m, parse depth (.string text) ≠ .ok (.number m)
  hash : 2 ^ 64 ≤ n →
    ((∃ h, parse depth (.string text) = .ok (.hash h)) ↔ 16 ^ 63 ≤ n ∧ n < 16 ^ 64)
  invalid : 2 ^ 64 ≤ n →
    (parse depth (.string text) = .error (.fault ⟨.invalid, .string text⟩) ↔
      ¬ (16 ^ 63 ≤ n ∧ n < 16 ^ 64))

theorem agreesWithSelectors_quantity (depth n : Nat) :
    AgreesWithSelectors depth n (Hex.quantity n) := by
  constructor
  case only =>
    intro s
    simp only [← Hex.value?_eq_some_iff]
    exact Hex.isQuantity_iff
  case number =>
    intro small
    have text : (number (UInt64.ofNat n)).text = Hex.quantity n := by
      rw [BlockKey.text, UInt64.toNat_ofNat_of_lt' small]
    have read := parse_text depth (.number (UInt64.ofNat n))
    rw [text] at read
    exact ⟨_, atNumber_of_lt small, read, text⟩
  case noNumber =>
    intro large m
    by_cases long : (Hex.digits n).length = 64
    · obtain ⟨h, read⟩ := @parse_quantity_of_hash depth n long
      simp [read]
    · simp [parse_quantity_of_large large long]
  case hash =>
    intro large
    rw [← length_digits_eq_hash_iff]
    refine ⟨fun ⟨h, read⟩ => ?_, parse_quantity_of_hash⟩
    by_contra other
    rw [parse_quantity_of_large large other] at read
    cases read
  case invalid =>
    intro large
    rw [← length_digits_eq_hash_iff]
    refine ⟨fun invalid long => ?_, parse_quantity_of_large large⟩
    obtain ⟨h, read⟩ := @parse_quantity_of_hash depth n long
    rw [read] at invalid
    cases invalid

/-- **Quantities and selectors agree.** Every natural number has a quantity, which agrees with the
selectors, and no integer below zero has one. -/
theorem quantities_agree :
    (∀ n : Nat, ∃ text, Hex.quantity? n = .ok text ∧ ∀ depth, AgreesWithSelectors depth n text) ∧
      ∀ n : Int, n < 0 → Hex.quantity? n = .error ⟨n⟩ := by
  refine ⟨fun n => ⟨_, rfl, fun depth => agreesWithSelectors_quantity depth n⟩, fun n below => ?_⟩
  obtain ⟨m, rfl⟩ := Int.eq_negSucc_of_lt_zero below
  rfl

/-- The first number of 64 digits has the quantity of a hash. -/
theorem quantities_agree_first_hash :
    ∃ text, Hex.quantity? (16 ^ 63) = .ok text ∧ ∃ h, parse 0 (.string text) = .ok (.hash h) := by
  obtain ⟨text, written, agrees⟩ := quantities_agree.1 (16 ^ 63)
  exact ⟨text, written, ((agrees 0).hash (by decide)).2 ⟨Nat.le_refl _, by decide⟩⟩

end LedgerGateway.BlockKey
