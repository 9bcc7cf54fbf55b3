import LedgerGateway.Datum.Basic
import LedgerGateway.Hex.Quantity

/-!
# Block keys

A block key selects the state that a query is about: the newest sealed block, the pending state, or
the sealed block with a number or a hash. Its wire form is a tag or hexadecimal digits behind `0x`;
exactly 64 digits are a hash, any other count is a number below 2 ^ 64.

* `text` — the canonical wire form.
* `parseText` — reads every wire form.
* `parse` — the same for any value.
-/

namespace LedgerGateway

open Hex (Bytes)

/-- The hash of a block: 32 bytes. -/
structure BlockHash where
  bytes : Bytes
  length_eq : bytes.length = 32
  deriving DecidableEq, Repr

/-- The block whose state a query is about. -/
inductive BlockKey where
  | latest
  | pending
  | number (n : UInt64)
  | hash (h : BlockHash)
  deriving DecidableEq, Repr

namespace BlockKey

/-- Why a value selects no block. -/
inductive FaultKind where
  /-- It is no selector. -/
  | invalid
  /-- It is a selector that the ledger does not offer. -/
  | unsupported
  deriving DecidableEq, Repr

/-- The word for a kind of fault. -/
def FaultKind.name : FaultKind → String
  | .invalid => "invalid"
  | .unsupported => "unsupported"

/-- A value that selects no block. -/
structure Fault where
  kind : FaultKind
  /-- The value. -/
  raw : Json
  deriving Repr

/-- The wording of a fault. -/
def Fault.message (f : Fault) : String :=
  s!"{f.kind.name} block key: {(Datum.ofJson f.raw).literal}"

/-- What comes of a value that selects no block. -/
inductive Refusal where
  | fault (f : Fault)
  /-- The wording of the fault shows the value, which cannot be written. -/
  | unwritable (f : Datum.LiteralFault)
  deriving Repr

/-- Why a value is outside the range of a constructor. -/
inductive RangeFault where
  | number (n : Int)
  | hashLength (count : Nat)
  deriving DecidableEq, Repr

/-- The wording of a range fault. -/
def RangeFault.message : RangeFault → String
  | .number n => s!"Block number out of range: {n}"
  | .hashLength count => s!"Block hash must be 32 bytes, got {count}"

/-- The block with a number, which has to be below 2 ^ 64. -/
def atNumber (n : Int) : Except RangeFault BlockKey :=
  if 0 ≤ n ∧ n < UInt64.size then .ok (.number (UInt64.ofNat n.toNat)) else .error (.number n)

/-- The block with a hash, which has to be 32 bytes. -/
def atHash (bytes : Bytes) : Except RangeFault BlockKey :=
  if h : bytes.length = 32 then .ok (.hash ⟨bytes, h⟩) else .error (.hashLength bytes.length)

/-- Tags that other ledgers answer and this one does not. -/
def unsupportedTags : List String := ["earliest", "safe", "finalized"]

/-- The block of the digits behind `0x`. -/
def ofDigits? (ds : List Char) : Option BlockKey :=
  if ds.isEmpty || !ds.all Hex.isDigit then none
  else if ds.length = 64 then
    match Hex.readPairs ds 0 with
    | .ok bytes => if h : bytes.length = 32 then some (.hash ⟨bytes, h⟩) else none
    | .error _ => none
  else
    match Hex.value? ds with
    | some n => if n < UInt64.size then some (.number (UInt64.ofNat n)) else none
    | none => none

/-- The block that a text selects. -/
def parseText (s : String) : Except FaultKind BlockKey :=
  if s = "latest" then .ok .latest
  else if s = "pending" then .ok .pending
  else if unsupportedTags.contains s then .error .unsupported
  else
    match s.toList with
    | '0' :: 'x' :: ds => (ofDigits? ds).elim (.error .invalid) .ok
    | _ => .error .invalid

/-- The refusal of a value. The wording of the fault is made at once, with room for values down to
the given depth. -/
def refuse (depth : Nat) (kind : FaultKind) (raw : Json) : Refusal :=
  match (Datum.ofJson raw).literalFault? depth with
  | none => .fault ⟨kind, raw⟩
  | some f => .unwritable f

/-- The block that a value selects; only text selects one. -/
def parse (depth : Nat) (raw : Json) : Except Refusal BlockKey :=
  match raw with
  | .string s => (parseText s).mapError fun kind => refuse depth kind raw
  | _ => .error (refuse depth .invalid raw)

/-- The canonical wire form. -/
def text : BlockKey → String
  | .latest => "latest"
  | .pending => "pending"
  | .number n => Hex.quantity n.toNat
  | .hash h => Hex.marked (Hex.encode h.bytes)

end BlockKey

end LedgerGateway
