import LedgerGateway.Proofs.BlockChain

/-!
# Which block a key stands for

A key stands for the state of a block if there is one. The states that a ledger has come from what
was written to it.

* `Newest` — of several blocks with one hash the newest answers; `resolve_hash_of_mem` and
  `resolve_number_of_le` tell when there is a block for a key.
* `AllSolvent` — no balance in any state is below zero; a history that writes no such balance keeps
  this (`AllSolvent.serve`, `allSolvent_run`).
-/

namespace LedgerGateway

/-! ## Blocks -/

namespace Ledger

variable {l : Ledger} {history : List Call}

theorem resolve_number_of_le (counted : Counted history l) {n : UInt64}
    (h : n.toNat ≤ l.head.number) :
    ∃ block : Block, l.blocks[n.toNat]? = some block ∧ l.resolve (.number n) = .ok block.state := by
  obtain ⟨block, listed⟩ := counted.block h
  exact ⟨block, listed, resolve_number listed⟩

/-- Of the sealed blocks with a hash the newest. -/
structure Newest (l : Ledger) (h : BlockHash) (block : Block) : Prop where
  sealed : block ∈ l.blocks
  hash : block.hash = h
  newest : ∀ block' ∈ l.blocks, block'.hash = h → block'.number ≤ block.number

theorem Chained.newest (chained : Chained l) {h : BlockHash} {block : Block}
    (found : l.index.lookup h = some block) : Newest l h block := by
  rw [chained.index, List.find?_eq_some_iff_append] at found
  obtain ⟨hash, newer, older, split, others⟩ := found
  simp only [decide_eq_true_eq, Bool.not_eq_true', decide_eq_false_iff_not] at hash others
  -- From the first block on, the blocks in front of the newest with the hash are the older ones.
  have blocks : l.blocks = older.reverse ++ block :: newer.reverse := by
    rw [Ledger.blocks, split]
    simp
  have place : l.blocks[older.length]? = some block := by
    rw [blocks, List.getElem?_append_right (by simp)]
    simp
  refine ⟨List.mem_of_getElem? place, hash, fun block' mem same => ?_⟩
  rw [chained.number _ _ place]
  rw [blocks, List.mem_append, List.mem_cons, List.mem_reverse, List.mem_reverse] at mem
  rcases mem with before | rfl | behind
  · obtain ⟨j, hj⟩ := List.getElem?_of_mem (List.mem_reverse.2 before)
    have bound := (List.getElem?_eq_some_iff.1 hj).1
    rw [List.length_reverse] at bound
    have listed : l.blocks[j]? = some block' := by
      rw [blocks, List.getElem?_append_left (by simpa using bound), hj]
    rw [chained.number _ _ listed]
    omega
  · exact Nat.le_of_eq (chained.number _ _ place)
  · exact absurd same (others block' behind)

theorem resolve_hash_of_mem (chained : Chained l) {h : BlockHash}
    (known : ∃ block ∈ l.blocks, block.hash = h) :
    ∃ block, Newest l h block ∧ l.resolve (.hash h) = .ok block.state := by
  obtain ⟨block, mem, same⟩ := known
  cases found : l.index.lookup h with
  | some newest => exact ⟨newest, chained.newest found, by simp only [resolve, found]⟩
  | none =>
    rw [chained.index] at found
    exact absurd (decide_eq_true same) (List.find?_eq_none.1 found block (mem_blocks.1 mem))

/-! ## Balances -/

/-- No account of the state has a balance below zero. -/
def Solvent (state : Snapshot) : Prop :=
  ∀ a account, state.account? a = some account → 0 ≤ account.balance

/-- No balance is below zero, in no block and not in the pending state. -/
structure AllSolvent (l : Ledger) : Prop where
  pending : Solvent l.pending.state
  sealed : ∀ block ∈ l.blocks, Solvent block.state

/-- The call writes no balance below zero. -/
def KeepsSolvent : Call → Prop
  | .setAccount _ account => 0 ≤ account.balance
  | _ => True

theorem allSolvent_fresh : AllSolvent fresh where
  pending := by
    intro a account h
    cases h
  sealed := by
    intro block mem a account h
    obtain rfl : block = .genesis := by simpa using mem
    cases h

/-- One call that writes no balance below zero leaves none behind. -/
theorem AllSolvent.serve (solvent : AllSolvent l) {c : Call} (keeps : KeepsSolvent c) :
    AllSolvent (l.serve c).2 := by
  have effect := serve_effect l c
  generalize (l.serve c).2 = l' at effect ⊢
  cases effect with
  | @account address a account spells =>
    refine ⟨fun b found h => ?_, solvent.sealed⟩
    rw [Snapshot.account?_setAccount] at h
    split at h
    · obtain rfl := Option.some.inj h
      exact keeps
    · exact solvent.pending b found h
  | slot spells slot => exact ⟨solvent.pending, solvent.sealed⟩
  | sealing room =>
    refine ⟨solvent.pending, fun block mem => ?_⟩
    rw [blocks_push, List.mem_append, List.mem_singleton] at mem
    rcases mem with old | rfl
    · exact solvent.sealed block old
    · exact solvent.pending
  | full => exact solvent
  | nothing => exact solvent

/-- So does a run of such calls. -/
theorem allSolvent_run (calls : List Call) : ∀ l : Ledger, AllSolvent l →
    (∀ c ∈ calls, KeepsSolvent c) → AllSolvent (l.run calls) := by
  induction calls with
  | nil => exact fun l solvent _ => solvent
  | cons c rest ih =>
    intro l solvent keeps
    exact ih _ (solvent.serve (keeps c (by simp))) fun c' mem => keeps c' (by simp [mem])

/-- The state that a key selects is one of the ledger's. -/
theorem AllSolvent.resolve (solvent : AllSolvent l) (chained : Chained l) {key : BlockKey}
    {state : Snapshot} (h : l.resolve key = .ok state) : Solvent state := by
  cases key with
  | latest =>
    obtain rfl := Except.ok.inj h
    exact solvent.sealed l.head (by simp [blocks])
  | pending =>
    obtain rfl := Except.ok.inj h
    exact solvent.pending
  | number n =>
    simp only [Ledger.resolve] at h
    split at h
    · next block listed =>
      obtain rfl := Except.ok.inj h
      exact solvent.sealed block (List.mem_of_getElem? listed)
    · cases h
  | hash b =>
    simp only [Ledger.resolve] at h
    split at h
    · next block found =>
      obtain rfl := Except.ok.inj h
      exact solvent.sealed block (chained.newest found).sealed
    · cases h

end Ledger

end LedgerGateway
