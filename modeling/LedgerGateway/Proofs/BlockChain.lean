import LedgerGateway.Proofs.CallEffect

/-!
# The chain of blocks and the ways to address it

The list of blocks, the index by hash and the pending block are three copies of one history, and
sealing has to keep them in step.

* `Chained` — numbers count the blocks, each hash is the digest of the parent's hash and the number
  in eight bytes, and the index holds for each hash the newest block that bears it; one call keeps
  this (`Chained.serve`), hence a whole run does (`chained_run`);
* `CollisionFree` — the digest tells apart the inputs that were hashed for the blocks. This is all
  that is assumed of it, and it makes the index a bijection (`Chained.lookup_index_iff`);
* `chain_paths_agree` — the same block answers whichever way it is addressed.
-/

namespace LedgerGateway

open Hex (Bytes)

/-! ## Numbers in eight bytes -/

namespace Digest

/-- The bytes of a word behind others spell them shifted by four bytes, and the word. -/
theorem bigEndian_append_wordBytes (bytes : Bytes) (w : UInt32) :
    bigEndian (bytes ++ wordBytes w) = bigEndian bytes * UInt32.size + w.toNat := by
  have bound := w.toNat_lt
  simp only [bigEndian, wordBytes, List.foldl_append, List.foldl_cons, List.foldl_nil,
    UInt32.toNat_toUInt8, UInt32.toNat_shiftRight, UInt32.reduceToNat, UInt32.size]
  simp only [Nat.shiftRight_eq_div_pow, Nat.reduceMod, Nat.reducePow]
  omega

/-- A number below 2 ^ 64 is spelt by its eight bytes. -/
theorem bigEndian_numberBytes {n : Nat} (h : n < UInt64.size) : bigEndian (numberBytes n) = n := by
  have high := bigEndian_append_wordBytes [] (UInt32.ofNat (n / UInt32.size))
  rw [List.nil_append] at high
  rw [numberBytes, bigEndian_append_wordBytes, high]
  simp only [bigEndian, List.foldl_nil, UInt32.toNat_ofNat', UInt32.size, UInt64.size] at h ⊢
  omega

theorem numberBytes_length (n : Nat) : (numberBytes n).length = 8 := rfl

end Digest

namespace Ledger

/-! ## The invariant -/

/-- What the hash of the block at a place is chained to: the hash of the block in front, and zeros
for the first block. -/
def parentHash (l : Ledger) : Nat → Bytes
  | 0 => List.replicate 32 0
  | i + 1 => (l.blocks[i]?.map (·.hash.bytes)).getD []

/-- What the hash of the block at a place is the digest of. -/
def hashInput (l : Ledger) (i : Nat) : Bytes := l.parentHash i ++ Digest.numberBytes i

/-- Numbers count the blocks, each hash is the digest of what precedes the block and its number, and
the index finds for each hash the newest block that bears it. -/
structure Chained (l : Ledger) : Prop where
  number : ∀ (i : Nat) (block : Block), l.blocks[i]? = some block → block.number = i
  hash : ∀ (i : Nat) (block : Block), l.blocks[i]? = some block →
    block.hash.bytes = Digest.sha256 (l.hashInput i)
  index : ∀ h, l.index.lookup h = (l.head :: l.older).find? (·.hash = h)

theorem chained_fresh : Chained fresh where
  number := by
    intro i block h
    obtain ⟨rfl, rfl⟩ : i = 0 ∧ Block.genesis = block := by
      simpa [List.getElem?_singleton] using h
    rfl
  hash := by
    intro i block h
    obtain ⟨rfl, rfl⟩ : i = 0 ∧ Block.genesis = block := by
      simpa [List.getElem?_singleton] using h
    rfl
  index := by
    intro h
    by_cases same : h = Block.genesis.hash
    · simp [fresh, same]
    · simp [fresh, List.lookup_cons, beq_eq_false_iff_ne.mpr same, Ne.symm same]

/-- Of the blocks that are there, a longer chain says the same. -/
theorem hashInput_push {l : Ledger} (block : Block) {i : Nat} (h : i ≤ l.blocks.length) :
    (l.push block).hashInput i = l.hashInput i := by
  cases i with
  | zero => rfl
  | succ i =>
      simp only [hashInput, parentHash]
      rw [blocks_push, List.getElem?_append_left (by omega)]

/-- The block behind the head is chained to it. -/
theorem hashInput_head {l : Ledger} {history : List Call} (counted : Counted history l) :
    l.hashInput l.blocks.length = l.head.hash.bytes ++ Digest.numberBytes (l.head.number + 1) := by
  rw [hashInput, ← counted.number, parentHash, counted.head_block]
  rfl

/-- Sealing keeps the invariant. -/
theorem Chained.push {l : Ledger} {history : List Call} (chained : Chained l)
    (counted : Counted history l) : Chained (l.push l.nextBlock) := by
  have place := counted.number
  -- A block of the longer chain is one of the old ones, or the new one at the end.
  have cases' : ∀ (i : Nat) (block : Block), (l.push l.nextBlock).blocks[i]? = some block →
      l.blocks[i]? = some block ∨ (i = l.blocks.length ∧ block = l.nextBlock) := by
    intro i block h
    rw [blocks_push] at h
    by_cases old : i < l.blocks.length
    · rw [List.getElem?_append_left old] at h
      exact .inl h
    · have bound := (List.getElem?_eq_some_iff.mp h).1
      rw [List.length_append, List.length_singleton] at bound
      obtain rfl : i = l.blocks.length := by omega
      rw [List.getElem?_append_right (Nat.le_refl _), Nat.sub_self] at h
      exact .inr ⟨rfl, (Option.some.inj h).symm⟩
  refine ⟨?_, ?_, ?_⟩
  · intro i block h
    rcases cases' i block h with old | ⟨rfl, rfl⟩
    · exact chained.number i block old
    · rw [← place]
      rfl
  · intro i block h
    rcases cases' i block h with old | ⟨rfl, rfl⟩
    · rw [hashInput_push _ (Nat.le_of_lt (List.getElem?_eq_some_iff.mp old).1)]
      exact chained.hash i block old
    · rw [hashInput_push _ (Nat.le_refl _), hashInput_head counted]
      rfl
  · intro h
    show (Association.put l.index l.nextBlock.hash l.nextBlock).lookup h =
      (l.nextBlock :: l.head :: l.older).find? (·.hash = h)
    rw [Association.lookup_put, chained.index]
    by_cases same : h = l.nextBlock.hash
    · simp [same]
    · rw [if_neg same]
      exact (List.find?_cons_of_neg (by simpa using Ne.symm same)).symm

/-- A write to the pending block keeps the invariant. -/
theorem Chained.pending {l : Ledger} (chained : Chained l) (p : Block) :
    Chained { l with pending := p } :=
  ⟨chained.number, chained.hash, chained.index⟩

/-- One call keeps the invariant. -/
theorem Chained.serve {l : Ledger} {history : List Call} (chained : Chained l)
    (counted : Counted history l) (c : Call) : Chained (l.serve c).2 := by
  have effect := serve_effect l c
  generalize (l.serve c).2 = l' at effect ⊢
  cases effect with
  | account => exact chained.pending _
  | slot => exact chained.pending _
  | sealing => exact chained.push counted
  | full => exact chained
  | nothing => exact chained

/-- The invariant holds behind every run. -/
theorem chained_run (calls : List Call) : Chained (fresh.run calls) := by
  have both := run_induction (P := fun history l => Counted history l ∧ Chained l)
    (fun _ _ c h => ⟨h.1.serve c, h.2.serve h.1 c⟩) calls [] fresh ⟨⟨rfl, rfl⟩, chained_fresh⟩
  exact both.2

/-! ## Blocks by hash -/

/-- The digest tells apart the inputs that were hashed for the blocks of the ledger. -/
def CollisionFree (l : Ledger) : Prop :=
  ∀ i < l.blocks.length, ∀ j < l.blocks.length,
    Digest.sha256 (l.hashInput i) = Digest.sha256 (l.hashInput j) → l.hashInput i = l.hashInput j

instance (l : Ledger) : Decidable (CollisionFree l) :=
  inferInstanceAs (Decidable (∀ i < l.blocks.length, ∀ j < l.blocks.length, _ → _))

/-- The inputs of two places differ, because they end in different numbers. -/
theorem hashInput_inj {l : Ledger} {i j : Nat} (hi : i < UInt64.size) (hj : j < UInt64.size)
    (h : l.hashInput i = l.hashInput j) : i = j := by
  have digits : Digest.numberBytes i = Digest.numberBytes j :=
    (List.append_inj' h rfl).2
  rw [← Digest.bigEndian_numberBytes hi, digits, Digest.bigEndian_numberBytes hj]

/-- Without collisions a hash belongs to one block. -/
theorem Chained.eq_of_hash_eq {l : Ledger} {history : List Call} (chained : Chained l)
    (counted : Counted history l) (free : CollisionFree l) {i j : Nat} {block block' : Block}
    (h : l.blocks[i]? = some block) (h' : l.blocks[j]? = some block')
    (same : block.hash = block'.hash) : i = j := by
  have hi := (List.getElem?_eq_some_iff.mp h).1
  have hj := (List.getElem?_eq_some_iff.mp h').1
  have length := counted.length
  have digests : Digest.sha256 (l.hashInput i) = Digest.sha256 (l.hashInput j) := by
    rw [← chained.hash i block h, ← chained.hash j block' h', same]
  exact hashInput_inj (by omega) (by omega) (free i hi j hj digests)

theorem mem_blocks {l : Ledger} {block : Block} :
    block ∈ l.blocks ↔ block ∈ l.head :: l.older := List.mem_reverse

/-- A hash that no block has selects nothing. -/
theorem Chained.resolve_hash_of_not_mem {l : Ledger} (chained : Chained l) {h : BlockHash}
    (unknown : ∀ block ∈ l.blocks, block.hash ≠ h) :
    l.resolve (.hash h) = .error (.unknownHash h) := by
  have absent : l.index.lookup h = none := by
    rw [chained.index, List.find?_eq_none]
    intro block mem
    simpa using unknown block (mem_blocks.2 mem)
  simp only [resolve, absent]

/-- Without collisions the index maps exactly the hashes of the blocks, each to its block. -/
theorem Chained.lookup_index_iff {l : Ledger} {history : List Call} (chained : Chained l)
    (counted : Counted history l) (free : CollisionFree l) (h : BlockHash) (block : Block) :
    l.index.lookup h = some block ↔ block ∈ l.blocks ∧ block.hash = h := by
  rw [chained.index]
  constructor
  · intro found
    refine ⟨mem_blocks.mpr (List.mem_of_find?_eq_some found), ?_⟩
    simpa using List.find?_some found
  · rintro ⟨mem, rfl⟩
    cases found : (l.head :: l.older).find? (·.hash = block.hash) with
    | none =>
        have different := List.find?_eq_none.mp found block (mem_blocks.mp mem)
        exact absurd (decide_eq_true rfl) different
    | some block' =>
        -- The index finds the newest block with the hash; without collisions it is the only one.
        have mem' := mem_blocks.mpr (List.mem_of_find?_eq_some found)
        have same : block'.hash = block.hash := by simpa using List.find?_some found
        obtain ⟨i, hi⟩ := List.getElem?_of_mem mem
        obtain ⟨j, hj⟩ := List.getElem?_of_mem mem'
        obtain rfl := chained.eq_of_hash_eq counted free hj hi same
        rw [← hi, hj]

/-! ## The ways to address a block -/

/-- Two keys get the same answer to every query. -/
structure SameAnswers (l : Ledger) (key key' : BlockKey) : Prop where
  account : ∀ address, l.getAccount address key = l.getAccount address key'
  storage : ∀ address position, l.getStorage address position key =
    l.getStorage address position key'

/-- Every query at the key is refused. -/
structure RefusesAt (l : Ledger) (key : BlockKey) : Prop where
  account : ∀ address, ∃ fault, l.getAccount address key = .error fault
  storage : ∀ address position, ∃ fault, l.getStorage address position key = .error fault

theorem SameAnswers.of_resolve_eq {l : Ledger} {key key' : BlockKey}
    (h : l.resolve key = l.resolve key') : SameAnswers l key key' :=
  ⟨fun address => by rw [getAccount, getAccount, h],
    fun address position => by rw [getStorage, getStorage, h]⟩

theorem RefusesAt.of_resolve_eq {l : Ledger} {key : BlockKey} {fault : LedgerFault}
    (h : l.resolve key = .error fault) : RefusesAt l key :=
  ⟨fun address => ⟨fault, by rw [getAccount, h]⟩,
    fun address position => ⟨fault, by rw [getStorage, h]⟩⟩

/-- The three structures tell one story: there is one block for each commit and the first one,
their numbers count them, each hash is the digest of the parent's hash (zeros for the first) and the
eight bytes of the number, and the index maps just the hashes of the blocks, each to its block. -/
structure InStep (commits : Nat) (l : Ledger) : Prop where
  length : l.blocks.length = commits + 1
  last : l.blocks.getLast? = some l.head
  number : ∀ (i : Nat) (block : Block), l.blocks[i]? = some block → block.number = i
  first_hash : ∀ block : Block, l.blocks[0]? = some block →
    block.hash.bytes = Digest.sha256 (List.replicate 32 0 ++ Digest.numberBytes 0)
  next_hash : ∀ (i : Nat) (parent block : Block), l.blocks[i]? = some parent →
    l.blocks[i + 1]? = some block →
    block.hash.bytes = Digest.sha256 (parent.hash.bytes ++ Digest.numberBytes (i + 1))
  index : ∀ (h : BlockHash) (block : Block),
    l.index.lookup h = some block ↔ block ∈ l.blocks ∧ block.hash = h

/-- A block answers the same whichever way it is addressed, and what addresses no block is
refused. -/
structure PathsAgree (l : Ledger) : Prop where
  by_hash : ∀ i ≤ l.head.number, ∃ block : Block, l.blocks[i]? = some block ∧
    (i ≤ Int64.maxValue.toInt → l.hashAt i = .ok block.hash) ∧
    SameAnswers l (.hash block.hash) (.number (UInt64.ofNat i))
  latest : SameAnswers l .latest (.number (UInt64.ofNat l.head.number))
  committed : l.head.number + 1 < UInt64.size →
    ∃ sealed, l.commit = .ok sealed ∧ SameAnswers sealed .pending .latest
  above : ∀ n : UInt64, l.head.number < n.toNat → RefusesAt l (.number n)
  unknown : ∀ h, (∀ block ∈ l.blocks, block.hash ≠ h) → RefusesAt l (.hash h)

theorem Chained.inStep {l : Ledger} {history : List Call} (chained : Chained l)
    (counted : Counted history l) (few : seals history < UInt64.size) (free : CollisionFree l) :
    InStep (seals history) l where
  length := by
    have := counted.length
    omega
  last := getLast?_blocks l
  number := chained.number
  first_hash := chained.hash 0
  next_hash := by
    intro i parent block hparent hblock
    rw [chained.hash (i + 1) block hblock, hashInput, parentHash, hparent]
    rfl
  index := chained.lookup_index_iff counted free

/-- The hash of a block is found by its place. -/
theorem hashAt_eq {l : Ledger} {i : Nat} {block : Block} (h : l.blocks[i]? = some block)
    (small : i ≤ Int64.maxValue.toInt) : l.hashAt i = .ok block.hash := by
  have low : ¬ ((i : Int) < Int64.minValue.toInt ∨ Int64.maxValue.toInt < i) := by
    have : Int64.minValue.toInt < 0 := by decide
    omega
  have sign : ¬ (i : Int) < 0 := by omega
  simp only [hashAt, if_neg low, if_neg sign, Int.toNat_natCast, h]

theorem Chained.pathsAgree {l : Ledger} {history : List Call} (chained : Chained l)
    (counted : Counted history l) (free : CollisionFree l) : PathsAgree l where
  by_hash := by
    intro i hi
    obtain ⟨block, hblock⟩ := counted.block hi
    refine ⟨block, hblock, hashAt_eq hblock, .of_resolve_eq ?_⟩
    have bound := (List.getElem?_eq_some_iff.mp hblock).1
    have length := counted.length
    -- There are no more blocks than numbers of eight bytes, so the key keeps the number.
    have place : (UInt64.ofNat i).toNat = i := UInt64.toNat_ofNat_of_lt (by omega)
    have found : l.index.lookup block.hash = some block :=
      (chained.lookup_index_iff counted free _ _).mpr ⟨List.mem_of_getElem? hblock, rfl⟩
    rw [resolve_number (place.symm ▸ hblock)]
    simp only [resolve, found]
  latest := by
    refine .of_resolve_eq ?_
    have number := counted.number
    have length := counted.length
    have place : (UInt64.ofNat l.head.number).toNat = l.head.number :=
      UInt64.toNat_ofNat_of_lt (by omega)
    rw [resolve_number (place.symm ▸ counted.head_block)]
    rfl
  committed := by
    intro room
    have commits : l.commit = .ok (l.push l.nextBlock) := if_pos room
    exact ⟨_, commits, .of_resolve_eq rfl⟩
  above := by
    intro n h
    exact .of_resolve_eq (counted.resolve_number_of_lt h)
  unknown := by
    intro h none
    exact .of_resolve_eq (chained.resolve_hash_of_not_mem none)

/-- **One chain, whichever way it is addressed.** Behind every run with fewer commits than there are
numbers of eight bytes, if the digest has no collision on the inputs hashed for the blocks, the
list of blocks, the index and the numbers are in step, and a block gives the same answers by number,
by hash and, for the newest one, as the latest block and right behind its commit as the pending
one. -/
theorem chain_paths_agree (calls : List Call) (few : seals calls < UInt64.size)
    (free : CollisionFree (fresh.run calls)) :
    InStep (seals calls) (fresh.run calls) ∧ PathsAgree (fresh.run calls) ∧
      ∀ n < UInt64.size, (Digest.numberBytes n).length = 8 ∧ bigEndian (Digest.numberBytes n) = n :=
  have chained := chained_run calls
  have counted := counted_run calls
  ⟨chained.inStep counted few free, chained.pathsAgree counted free,
    fun n h => ⟨Digest.numberBytes_length n, Digest.bigEndian_numberBytes h⟩⟩

/-- Two blocks behind the first one, the second with a write of its own. -/
def threeBlocks : List Call :=
  [.commit, .setAccount "abababababababababababababababababababab" ⟨5, [], 0⟩, .commit]

theorem chain_paths_agree_three_blocks :
    seals threeBlocks < UInt64.size ∧ CollisionFree (fresh.run threeBlocks) ∧
    InStep 2 (fresh.run threeBlocks) ∧ PathsAgree (fresh.run threeBlocks) := by
  have few : seals threeBlocks < UInt64.size := by decide
  have free : CollisionFree (fresh.run threeBlocks) := by decide +kernel
  have general := chain_paths_agree threeBlocks few free
  exact ⟨few, free, general.1, general.2.1⟩

end Ledger

end LedgerGateway
