import LedgerGateway.Proofs.BlockChain
import LedgerGateway.Proofs.MethodEndings

/-!
# What the account methods read off a ledger

An address in the parameters is two characters and forty digits, and a position two characters and
digits in pairs; the methods hand on what stands behind the two characters. The ledger in memory
resolves the block first and looks into its state then, so a method that passes its checks ends with
a part of one state, or with an internal error if there is no such state.

* `Denotes` — the account that an address names by its digits; `denotes` has one for each address.
* `accountMethod_of_key`, `getStorageAt_of_key` — how a method ends on the ledger in memory.
* `accountMethod_of_fault`, `getStorageAt_of_fault` — how it ends if no block is selected.
-/

namespace LedgerGateway.Rpc

open Hex (Bytes Pairs Spells)

/-! ## Addresses -/

/-- An address on the wire: 42 characters, of which the last forty are digits. -/
structure IsAddress (address : String) : Prop where
  length : address.length = 42
  digits : ∀ c ∈ address.toList.drop 2, Hex.isDigit c = true

/-- The digits of an address behind its first two characters are the bytes of an account. -/
structure Denotes (address : String) (a : Address) : Prop where
  length : address.length = 42
  pairs : Pairs (address.toList.drop 2) a.bytes

/-- Every address denotes an account. -/
theorem IsAddress.denotes {address : String} (h : IsAddress address) :
    ∃ a : Address, Denotes address a := by
  have forty : (address.toList.drop 2).length = 40 := by
    rw [List.length_drop, String.length_toList, h.length]
  obtain ⟨bytes, pairs, length⟩ := Hex.exists_pairs _ (by rw [forty]) h.digits
  have twenty : bytes.length = 20 := by omega
  exact ⟨⟨bytes, twenty⟩, h.length, pairs⟩

theorem spells_withoutMark {text : String} {bytes : Bytes}
    (pairs : Pairs (text.toList.drop 2) bytes) : Spells (withoutMark text) bytes :=
  ⟨[], by decide, _, by rw [withoutMark, String.toList_ofList, List.nil_append], pairs⟩

theorem Denotes.spells {address : String} {a : Address} (h : Denotes address a) :
    Spells (withoutMark address) a.bytes := spells_withoutMark h.pairs

/-! ## Positions -/

section Positions

variable {position : String} (h : Hex.EvenDigits (position.toList.drop 2))

include h

/-- Behind two characters an even number of digits makes the position long enough and even. -/
theorem long_of_digits : 4 ≤ position.length ∧ position.length % 2 = 0 := by
  have even := h.even
  have some_ := List.length_pos_iff.2 h.nonempty
  rw [List.length_drop, String.length_toList] at even some_
  omega

/-- The digits spell bytes, which are their number. -/
theorem spells_of_digits :
    ∃ bytes, Spells (withoutMark position) bytes ∧
      Hex.value? (position.toList.drop 2) = some (bigEndian bytes) := by
  obtain ⟨bytes, pairs, -⟩ := Hex.exists_pairs _ h.even h.digits
  exact ⟨bytes, spells_withoutMark pairs, pairs.value?_eq h.digits⟩

/-- The slot that is read is the number that the digits spell. -/
theorem readPosition_of_digits :
    ∃ n, Hex.value? (position.toList.drop 2) = some n ∧
      readPosition (withoutMark position) = .ok n := by
  obtain ⟨bytes, spells, value⟩ := spells_of_digits h
  exact ⟨_, value, (readPosition_eq_ok_iff _ _).2 ⟨bytes, spells, rfl⟩⟩

end Positions

/-! ## What the ledger in memory answers -/

section Answers

variable {l : Ledger} {key : BlockKey} {state : Snapshot} {fault : LedgerFault}

theorem client_getAccount_of_ok {address : String} {a : Address} (h : l.resolve key = .ok state)
    (spells : Spells address a.bytes) :
    l.client.getAccount address key = .ok (state.account? a) := by
  show Except.mapError _ (Ledger.described (l.getAccount address key)) = _
  rw [Ledger.getAccount_eq h spells]
  rfl

theorem client_getAccount_of_error (h : l.resolve key = .error fault) (address : String) :
    ∃ description, l.client.getAccount address key = .error (.other description) := by
  show ∃ description, Except.mapError _ (Ledger.described (l.getAccount address key)) = _
  rw [Ledger.getAccount, h]
  exact ⟨_, rfl⟩

theorem client_getStorage_of_ok {address position : String} {a : Address} {n : Nat}
    (h : l.resolve key = .ok state) (spells : Spells address a.bytes)
    (slot : readPosition position = .ok n) :
    l.client.getStorage address position key = .ok (state.slot? a n) := by
  show Except.mapError _ (Ledger.described (l.getStorage address position key)) = _
  rw [Ledger.getStorage_eq h spells ((readPosition_eq_ok_iff position n).1 slot)]
  rfl

theorem client_getStorage_of_error (h : l.resolve key = .error fault) (address position : String) :
    ∃ description, l.client.getStorage address position key = .error (.other description) := by
  show ∃ description, Except.mapError _ (Ledger.described (l.getStorage address position key)) = _
  rw [Ledger.getStorage, h]
  exact ⟨_, rfl⟩

theorem client_getStorage_of_malformed {address position : String} {a : Address}
    (h : l.resolve key = .ok state) (spells : Spells address a.bytes)
    (malformed : readPosition position = .error fault) :
    ∃ description, l.client.getStorage address position key = .error (.other description) := by
  show ∃ description, Except.mapError _ (Ledger.described (l.getStorage address position key)) = _
  rw [← address_read_eq_ok_iff] at spells
  simp only [Ledger.getStorage, h, spells, malformed]
  exact ⟨_, rfl⟩

end Answers

/-! ## Endings on the ledger in memory -/

section Endings

variable {l : Ledger} {address position block : String} {a : Address} {key : BlockKey}

theorem accountMethod_of_key (name : String) (part : Account → Except MethodFault Reply)
    (denotes : Denotes address a) (parsed : BlockKey.parseText block = .ok key) :
    (accountMethod name part (.array [.string address, .string block]) l.client).value =
      match l.resolve key with
      | .ok state => endingOf part (.ok (state.account? a))
      | .error _ => .error (.refused .internal) := by
  have asked : AskAccount (.array [.string address, .string block]) (withoutMark address) key :=
    ⟨_, _, rfl, parsed, denotes.length, rfl⟩
  rw [accountMethod_value, accountParams_eq_ok_iff.2 asked]
  cases resolved : l.resolve key with
  | ok state =>
    show endingOf part (l.client.getAccount _ _) = _
    rw [client_getAccount_of_ok resolved denotes.spells]
  | error fault =>
    obtain ⟨description, failed⟩ := client_getAccount_of_error resolved (withoutMark address)
    show endingOf part (l.client.getAccount _ _) = _
    rw [failed]
    rfl

theorem accountMethod_of_fault (name : String) (part : Account → Except MethodFault Reply)
    (client : LedgerClient) (address : String) {kind : BlockKey.FaultKind}
    (parsed : BlockKey.parseText block = .error kind) :
    (accountMethod name part (.array [.string address, .string block]) client).value =
      .error (.refused (selectorError kind)) := by
  rw [accountMethod_value, accountParams_texts, checkBlockKey_of_error parsed]
  rfl

/-- A position is refused for its length; behind that the block has to be there, and the position
has to spell a number. -/
theorem getStorageAt_of_key (denotes : Denotes address a)
    (parsed : BlockKey.parseText block = .ok key) (position : String) :
    (getStorageAt (.array [.string address, .string position, .string block]) l.client).value =
      if 4 ≤ position.length ∧ position.length % 2 = 0 then
        match l.resolve key, readPosition (withoutMark position) with
        | .ok state, .ok n => endingOf (fun v => .ok (dataReply v)) (.ok (state.slot? a n))
        | _, _ => .error (.refused .internal)
      else .error (.refused (.invalidParams s!"Invalid storage position: {position}")) := by
  rw [getStorageAt_value, storageParams_texts, checkBlockKey_of_ok parsed, checkAddress,
    if_pos denotes.length, checkPosition]
  by_cases long : 4 ≤ position.length ∧ position.length % 2 = 0
  · rw [if_pos long, if_pos long]
    show endingOf _ (l.client.getStorage (withoutMark address) (withoutMark position) key) = _
    cases resolved : l.resolve key with
    | error fault =>
      obtain ⟨description, failed⟩ :=
        client_getStorage_of_error resolved (withoutMark address) (withoutMark position)
      rw [failed]
      rfl
    | ok state =>
      cases slot : readPosition (withoutMark position) with
      | ok n => rw [client_getStorage_of_ok resolved denotes.spells slot]
      | error fault =>
        obtain ⟨description, failed⟩ := client_getStorage_of_malformed resolved denotes.spells slot
        rw [failed]
        rfl
  · rw [if_neg long, if_neg long]
    rfl

theorem getStorageAt_of_fault (client : LedgerClient) (address position : String)
    {kind : BlockKey.FaultKind} (parsed : BlockKey.parseText block = .error kind) :
    (getStorageAt (.array [.string address, .string position, .string block]) client).value =
      .error (.refused (selectorError kind)) := by
  rw [getStorageAt_value, storageParams_texts, checkBlockKey_of_error parsed]
  rfl

end Endings

end LedgerGateway.Rpc
