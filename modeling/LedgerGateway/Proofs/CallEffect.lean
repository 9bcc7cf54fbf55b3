import LedgerGateway.Ledger.Call
import LedgerGateway.Proofs.HexSpelling

/-!
# What one call does to the ledger

`Effect` lists all that a call can do: write an account, write a slot, seal a block, or leave the
ledger alone. What is proved of every run is proved of these four cases.

* `serve_effect` — the ledger behind a call is one that `Effect` names;
* `blocks_*` — how the sealed blocks are changed: only by one more at the end;
* `counted_run` — behind every run there is one block for each commit and the first one, until the
  numbers of eight bytes are used up.
-/

namespace LedgerGateway.Ledger

open Hex (Bytes Spells)

/-- The text spells a slot number, the highest byte first. -/
def SpellsSlot (position : String) (n : Nat) : Prop :=
  ∃ bytes, Spells position bytes ∧ bigEndian bytes = n

theorem SpellsSlot.unique {position : String} {n m : Nat} (h : SpellsSlot position n)
    (h' : SpellsSlot position m) : n = m := by
  obtain ⟨bytes, spells, rfl⟩ := h
  obtain ⟨bytes', spells', rfl⟩ := h'
  rw [spells.unique spells']

/-- The call is a write of the account at an address. -/
def WritesAccount (a : Address) : Call → Account → Prop
  | .setAccount address account, v => Spells address a.bytes ∧ account = v
  | _, _ => False

/-- The call is a write of a storage slot. -/
def WritesSlot (a : Address) (n : Nat) : Call → Bytes → Prop
  | .setStorage address position w, v =>
      Spells address a.bytes ∧ SpellsSlot position n ∧ w = v
  | _, _ => False

/-- The call writes nothing: it is no write, or its texts do not spell an address or a slot. -/
def WritesNothing (c : Call) : Prop :=
  (∀ a v, ¬ WritesAccount a c v) ∧ ∀ a n v, ¬ WritesSlot a n c v

/-- All that a call can do to the ledger. -/
inductive Effect (l : Ledger) : Call → Ledger → Prop
  | account {address a account} : Spells address a.bytes →
      Effect l (.setAccount address account)
        { l with pending.state := l.pending.state.setAccount a account }
  | slot {address position a n v} : Spells address a.bytes → SpellsSlot position n →
      Effect l (.setStorage address position v)
        { l with pending.state := l.pending.state.setSlot a n v }
  | sealing : l.head.number + 1 < UInt64.size → Effect l .commit (l.push l.nextBlock)
  | full : ¬ l.head.number + 1 < UInt64.size → Effect l .commit l
  | nothing {c} : c ≠ .commit → WritesNothing c → Effect l c l

/-- The ledger behind a call. -/
theorem serve_effect (l : Ledger) (c : Call) : Effect l c (l.serve c).2 := by
  cases c with
  | setAccount address account =>
      simp only [serve, setAccount]
      cases hread : Address.read address with
      | ok a => exact .account ((address_read_eq_ok_iff address a).mp hread)
      | error fault =>
          refine .nothing (by simp) ⟨?_, fun _ _ _ h => h⟩
          rintro a v ⟨spells, -⟩
          rw [(address_read_eq_ok_iff address a).mpr spells] at hread
          cases hread
  | setStorage address position v =>
      simp only [serve, setStorage]
      cases hread : Address.read address with
      | error fault =>
          refine .nothing (by simp) ⟨fun _ _ h => h, ?_⟩
          rintro a n w ⟨spells, -, -⟩
          rw [(address_read_eq_ok_iff address a).mpr spells] at hread
          cases hread
      | ok a =>
          have spells := (address_read_eq_ok_iff address a).mp hread
          cases hpos : readPosition position with
          | ok n => exact .slot spells ((readPosition_eq_ok_iff position n).mp hpos)
          | error fault =>
              refine .nothing (by simp) ⟨fun _ _ h => h, ?_⟩
              rintro a' n w ⟨-, slot, -⟩
              rw [(readPosition_eq_ok_iff position n).mpr slot] at hpos
              cases hpos
  | commit =>
      simp only [serve, commit]
      split
      · next h =>
        split at h
        · next room =>
          cases h
          exact .sealing room
        · cases h
      · next h =>
        split at h
        · cases h
        · next room => exact .full room
  | getAccount address key => exact .nothing (by simp) ⟨fun _ _ h => h, fun _ _ _ h => h⟩
  | getStorage address position key =>
      exact .nothing (by simp) ⟨fun _ _ h => h, fun _ _ _ h => h⟩

/-! ## The sealed blocks -/

@[simp] theorem blocks_fresh : fresh.blocks = [.genesis] := rfl

@[simp] theorem blocks_push (l : Ledger) (block : Block) :
    (l.push block).blocks = l.blocks ++ [block] := by
  simp [blocks, push]

@[simp] theorem blocks_pending (l : Ledger) (p : Block) :
    ({ l with pending := p } : Ledger).blocks = l.blocks := rfl

/-- The newest block is the last one. -/
theorem getLast?_blocks (l : Ledger) : l.blocks.getLast? = some l.head := by
  simp [blocks]

/-- A call leaves the sealed blocks what they are and where they are. -/
theorem blocks_prefix_serve (l : Ledger) (c : Call) : l.blocks <+: (l.serve c).2.blocks := by
  have effect := serve_effect l c
  generalize (l.serve c).2 = l' at effect ⊢
  cases effect with
  | account => exact List.prefix_rfl
  | slot => exact List.prefix_rfl
  | sealing =>
      rw [blocks_push]
      exact List.prefix_append _ _
  | full => exact List.prefix_rfl
  | nothing => exact List.prefix_rfl

/-- So does a run. -/
theorem blocks_prefix_run (calls : List Call) : ∀ l : Ledger, l.blocks <+: (l.run calls).blocks := by
  induction calls with
  | nil => intro l; exact List.prefix_rfl
  | cons c rest ih =>
      intro l
      exact (blocks_prefix_serve l c).trans (ih (l.serve c).2)

/-! ## Queries -/

theorem resolve_number {l : Ledger} {n : UInt64} {block : Block}
    (h : l.blocks[n.toNat]? = some block) : l.resolve (.number n) = .ok block.state := by
  simp only [resolve, h]

/-- An account query looks into the state that its key selects. -/
theorem getAccount_eq {l : Ledger} {key : BlockKey} {state : Snapshot} {address : String}
    {a : Address} (h : l.resolve key = .ok state) (spells : Spells address a.bytes) :
    l.getAccount address key = .ok (state.account? a) := by
  rw [← address_read_eq_ok_iff] at spells
  simp only [getAccount, h, spells]

/-- So does a storage query. -/
theorem getStorage_eq {l : Ledger} {key : BlockKey} {state : Snapshot} {address position : String}
    {a : Address} {n : Nat} (h : l.resolve key = .ok state) (spells : Spells address a.bytes)
    (slot : SpellsSlot position n) :
    l.getStorage address position key = .ok (state.slot? a n) := by
  rw [← address_read_eq_ok_iff] at spells
  have slot := (readPosition_eq_ok_iff position n).mpr slot
  simp only [getStorage, h, spells, slot]

/-! ## How many blocks there are -/

/-- How many blocks a history asks to seal. -/
def seals (history : List Call) : Nat := history.count .commit

@[simp] theorem seals_commit (history : List Call) :
    seals (history ++ [.commit]) = seals history + 1 := by
  simp [seals]

theorem seals_append_of_ne (history : List Call) {c : Call} (h : c ≠ .commit) :
    seals (history ++ [c]) = seals history := by
  simp [seals, h]

/-- The head bears the number of the last block, and each commit of the history gave one block, as
long as there were numbers. -/
structure Counted (history : List Call) (l : Ledger) : Prop where
  number : l.head.number + 1 = l.blocks.length
  length : l.blocks.length = min (seals history + 1) UInt64.size

/-- One call keeps the count. -/
theorem Counted.serve {history : List Call} {l : Ledger} (counted : Counted history l) (c : Call) :
    Counted (history ++ [c]) (l.serve c).2 := by
  have number := counted.number
  have length := counted.length
  have effect := serve_effect l c
  generalize (l.serve c).2 = l' at effect ⊢
  cases effect with
  | account => exact ⟨number, by rw [seals_append_of_ne _ (by simp)]; exact length⟩
  | slot => exact ⟨number, by rw [seals_append_of_ne _ (by simp)]; exact length⟩
  | sealing room =>
      constructor
      · rw [blocks_push, List.length_append, ← number]
        rfl
      · rw [blocks_push, List.length_append, seals_commit, List.length_singleton]
        omega
  | full room =>
      refine ⟨number, ?_⟩
      rw [seals_commit]
      omega
  | nothing other => exact ⟨number, by rw [seals_append_of_ne _ other]; exact length⟩

/-- There is a block with each number up to the head's. -/
theorem Counted.block {history : List Call} {l : Ledger} (counted : Counted history l) {n : Nat}
    (h : n ≤ l.head.number) : ∃ block, l.blocks[n]? = some block := by
  have number := counted.number
  exact ⟨_, List.getElem?_eq_getElem (by omega)⟩

/-- The last of them is the head. -/
theorem Counted.head_block {history : List Call} {l : Ledger} (counted : Counted history l) :
    l.blocks[l.head.number]? = some l.head := by
  have last := getLast?_blocks l
  rw [List.getLast?_eq_getElem?, ← counted.number, Nat.add_sub_cancel] at last
  exact last

/-- A number behind the head's selects nothing. -/
theorem Counted.resolve_number_of_lt {history : List Call} {l : Ledger}
    (counted : Counted history l) {n : UInt64} (h : l.head.number < n.toNat) :
    l.resolve (.number n) = .error (.unknownNumber n l.head.number) := by
  have number := counted.number
  have absent : l.blocks[n.toNat]? = none := List.getElem?_eq_none (by omega)
  simp only [resolve, absent]

/-- A relation of histories to ledgers that each call keeps holds behind every run. -/
theorem run_induction {P : List Call → Ledger → Prop}
    (step : ∀ history l c, P history l → P (history ++ [c]) (l.serve c).2) (calls : List Call) :
    ∀ history l, P history l → P (history ++ calls) (l.run calls) := by
  induction calls with
  | nil =>
      intro history l h
      rwa [List.append_nil]
  | cons c rest ih =>
      intro history l h
      have := ih (history ++ [c]) (l.serve c).2 (step history l c h)
      rwa [List.append_assoc] at this

/-- The count holds behind every run. -/
theorem counted_run (calls : List Call) : Counted calls (fresh.run calls) :=
  run_induction (fun _ _ c counted => counted.serve c) calls [] fresh ⟨rfl, rfl⟩

end LedgerGateway.Ledger
