import LedgerGateway.Association
import LedgerGateway.BlockKey
import LedgerGateway.Digest.Sha256

/-!
# The ledger in memory

A ledger is a chain of sealed blocks, an index of them by hash, and a pending block. Writes go to
the state of the pending block; sealing gives a copy of it the next number and the digest of its
parent's hash and that number, and goes on with a copy of the new block. A query resolves a block
key to a state and looks into that. Accounts are found by the 20 bytes of an address and storage
slots by address and number, so the spelling of an address or a position never matters.
-/

namespace LedgerGateway

open Hex (Bytes)

/-- The address of an account: 20 bytes. -/
structure Address where
  bytes : Bytes
  length_eq : bytes.length = 20
  deriving DecidableEq, Repr

/-- The state of an account. -/
structure Account where
  balance : Int
  code : Bytes
  nonce : Int
  deriving DecidableEq, Repr

/-- What the ledger knows at one moment. -/
structure Snapshot where
  accounts : List (Address × Account)
  slots : List ((Address × Nat) × Bytes)
  deriving DecidableEq, Repr

/-- The state as of one block. -/
structure Block where
  number : Nat
  hash : BlockHash
  state : Snapshot
  deriving DecidableEq, Repr

/-- The sealed blocks, the newest apart from the older ones (newest first), the same blocks by
hash, and the pending block. Until it is sealed, the pending block bears the number and the hash of
the block that it was copied from. -/
structure Ledger where
  head : Block
  older : List Block
  index : List (BlockHash × Block)
  pending : Block
  deriving DecidableEq, Repr

/-- Why the ledger refused a query or a write. -/
inductive LedgerFault where
  | malformedAddress (text : String) (fault : Hex.Fault)
  | addressLength (count : Nat)
  | malformedPosition (text : String) (fault : Hex.Fault)
  | unknownNumber (n : UInt64) (head : Nat)
  | unknownHash (h : BlockHash)
  deriving DecidableEq, Repr

/-- The wording of a refusal. -/
def LedgerFault.message : LedgerFault → String
  | .malformedAddress text fault =>
    s!"Malformed account address {Text.quoted text}: {fault.message}"
  | .addressLength count => s!"Account address must be 20 bytes, got {count}"
  | .malformedPosition text fault =>
    s!"Malformed storage position {Text.quoted text}: {fault.message}"
  | .unknownNumber n head => s!"Unknown block number {n.toNat} (head is {head})"
  | .unknownHash h => s!"Unknown block hash {(BlockKey.hash h).text}"

/-- The address that a text spells, with or without `0x`. -/
def Address.read (text : String) : Except LedgerFault Address :=
  match Hex.read text with
  | .error fault => .error (.malformedAddress text fault)
  | .ok bytes =>
    if h : bytes.length = 20 then .ok ⟨bytes, h⟩ else .error (.addressLength bytes.length)

/-- The number that bytes spell, the highest first. -/
def bigEndian (bytes : Bytes) : Nat := bytes.foldl (fun n b => n * 256 + b.toNat) 0

/-- The slot number that a text spells, with or without `0x`. -/
def readPosition (text : String) : Except LedgerFault Nat :=
  match Hex.read text with
  | .error fault => .error (.malformedPosition text fault)
  | .ok bytes => .ok (bigEndian bytes)

namespace Snapshot

/-- The state that knows nothing. -/
def empty : Snapshot := ⟨[], []⟩

/-- The account at an address. -/
def account? (s : Snapshot) (a : Address) : Option Account := s.accounts.lookup a

/-- The value of a storage slot. -/
def slot? (s : Snapshot) (a : Address) (position : Nat) : Option Bytes :=
  s.slots.lookup (a, position)

/-- The state with an account set. -/
def setAccount (s : Snapshot) (a : Address) (account : Account) : Snapshot :=
  { s with accounts := Association.put s.accounts a account }

/-- The state with a storage slot set. -/
def setSlot (s : Snapshot) (a : Address) (position : Nat) (v : Bytes) : Snapshot :=
  { s with slots := Association.put s.slots (a, position) v }

@[simp] theorem account?_setAccount (s : Snapshot) (a b : Address) (account : Account) :
    (s.setAccount a account).account? b = if b = a then some account else s.account? b :=
  Association.lookup_put s.accounts a b account

@[simp] theorem slot?_setAccount (s : Snapshot) (a b : Address) (account : Account) (n : Nat) :
    (s.setAccount a account).slot? b n = s.slot? b n := rfl

@[simp] theorem account?_setSlot (s : Snapshot) (a b : Address) (n : Nat) (v : Bytes) :
    (s.setSlot a n v).account? b = s.account? b := rfl

@[simp] theorem slot?_setSlot (s : Snapshot) (a b : Address) (n m : Nat) (v : Bytes) :
    (s.setSlot a n v).slot? b m = if b = a ∧ m = n then some v else s.slot? b m := by
  simp only [slot?, setSlot, Association.lookup_put, Prod.mk.injEq]

end Snapshot

namespace BlockHash

/-- The hash of the block with a number behind the block with a hash. -/
def next (parent : Bytes) (number : Nat) : BlockHash :=
  ⟨Digest.sha256 (parent ++ Digest.numberBytes number), Digest.sha256_length _⟩

/-- The hash of the first block, whose parent's hash is taken to be zeros. -/
def genesis : BlockHash := next (List.replicate 32 0) 0

end BlockHash

/-- The first block, which is empty. -/
def Block.genesis : Block := ⟨0, BlockHash.genesis, Snapshot.empty⟩

namespace Ledger

/-- The ledger with nothing but the first block. -/
def fresh : Ledger := ⟨.genesis, [], [(Block.genesis.hash, .genesis)], .genesis⟩

/-- The sealed blocks from the first to the newest. -/
def blocks (l : Ledger) : List Block := (l.head :: l.older).reverse

/-- The next block has a number that does not fit into eight bytes. -/
structure NumberFault where
  number : Nat
  deriving DecidableEq, Repr

/-- The wording of the fault. -/
def NumberFault.message (_ : NumberFault) : String := "int too big to convert"

/-- The pending state as the next block. -/
def nextBlock (l : Ledger) : Block :=
  let number := l.head.number + 1
  { l.pending with number, hash := BlockHash.next l.head.hash.bytes number }

/-- The ledger with one more sealed block, a copy of which is pending. -/
def push (l : Ledger) (block : Block) : Ledger :=
  ⟨block, l.head :: l.older, Association.put l.index block.hash block, block⟩

/-- Seals the pending state as the next block. -/
def commit (l : Ledger) : Except NumberFault Ledger :=
  if l.nextBlock.number < UInt64.size then .ok (l.push l.nextBlock)
  else .error ⟨l.nextBlock.number⟩

/-- The record that sealing leaves in the log. -/
def commitMessage (sealed : Block) : String :=
  s!"Committed block {sealed.number} ({sealed.state.accounts.length} accounts)"

/-- Why an index names no block. -/
inductive IndexFault where
  /-- There are not so many blocks. -/
  | noBlock
  /-- The index does not fit into 64 bits. -/
  | noIndex
  deriving DecidableEq, Repr

/-- The wording of a fault. -/
def IndexFault.message : IndexFault → String
  | .noBlock => "list index out of range"
  | .noIndex => "cannot fit 'int' into an index-sized integer"

/-- The hash of a block counted from the first one or, below zero, back from behind the newest. -/
def hashAt (l : Ledger) (index : Int) : Except IndexFault BlockHash :=
  if index < Int64.minValue.toInt ∨ Int64.maxValue.toInt < index then .error .noIndex
  else
    let place := if index < 0 then index + l.blocks.length else index
    match if place < 0 then none else l.blocks[place.toNat]? with
    | some block => .ok block.hash
    | none => .error .noBlock

/-- Sets an account in the pending state. -/
def setAccount (l : Ledger) (address : String) (account : Account) : Except LedgerFault Ledger :=
  match Address.read address with
  | .error fault => .error fault
  | .ok a => .ok { l with pending.state := l.pending.state.setAccount a account }

/-- Sets a storage slot in the pending state. -/
def setStorage (l : Ledger) (address position : String) (v : Bytes) : Except LedgerFault Ledger :=
  match Address.read address with
  | .error fault => .error fault
  | .ok a =>
    match readPosition position with
    | .error fault => .error fault
    | .ok n => .ok { l with pending.state := l.pending.state.setSlot a n v }

/-- The state that a block key selects. -/
def resolve (l : Ledger) : BlockKey → Except LedgerFault Snapshot
  | .latest => .ok l.head.state
  | .pending => .ok l.pending.state
  | .number n =>
    match l.blocks[n.toNat]? with
    | some block => .ok block.state
    | none => .error (.unknownNumber n l.head.number)
  | .hash h =>
    match l.index.lookup h with
    | some block => .ok block.state
    | none => .error (.unknownHash h)

/-- The account at an address in the state that a block key selects. -/
def getAccount (l : Ledger) (address : String) (key : BlockKey) :
    Except LedgerFault (Option Account) :=
  match l.resolve key with
  | .error fault => .error fault
  | .ok state =>
    match Address.read address with
    | .error fault => .error fault
    | .ok a => .ok (state.account? a)

/-- The value of a storage slot in the state that a block key selects. -/
def getStorage (l : Ledger) (address position : String) (key : BlockKey) :
    Except LedgerFault (Option Bytes) :=
  match l.resolve key with
  | .error fault => .error fault
  | .ok state =>
    match Address.read address with
    | .error fault => .error fault
    | .ok a =>
      match readPosition position with
      | .error fault => .error fault
      | .ok n => .ok (state.slot? a n)

end Ledger

end LedgerGateway
