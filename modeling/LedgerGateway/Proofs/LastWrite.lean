import LedgerGateway.Proofs.CallEffect

/-!
# The ledger answers with the last write

A history of calls says by itself what a query has to find: the last successful write to its key,
made before the block of the query was sealed. The ledger, which keeps a copy of its state for each
block, is shown to answer just that.

* `LastWrite`, `beforeSeal` — what the history says: a write that no later one displaces, and the
  calls in front of the commit that seals a block;
* `Mirrors` — the relation of a history to the ledger behind it, for accounts and slots alike; one
  call keeps it (`Mirrors.serve`), hence a whole run does (`Mirrors.run`);
* `reads_last_writes` — every read of every run, together with what makes two keys one, with writes
  that are refused, and with blocks that later calls leave alone.
-/

namespace LedgerGateway.Ledger

open Hex (Bytes Spells)

/-! ## What a history says -/

/-- What the last write of a history left: its value, or nothing if there was none. -/
def LastWrite {β : Type} (writes : Call → β → Prop) (history : List Call) : Option β → Prop
  | some v => ∃ before c after, history = before ++ c :: after ∧ writes c v ∧
      ∀ c' ∈ after, ∀ v', ¬ writes c' v'
  | none => ∀ c ∈ history, ∀ v, ¬ writes c v

/-- The calls in front of the commit that seals the `n`-th block; none for the first block, which
is there from the beginning. -/
def beforeSeal : Nat → List Call → List Call
  | 0, _ => []
  | _ + 1, [] => []
  | n + 1, c :: rest =>
      if c = .commit then
        match n with
        | 0 => []
        | n + 1 => c :: beforeSeal (n + 1) rest
      else c :: beforeSeal (n + 1) rest

section History

variable {β : Type} {writes : Call → β → Prop} {history : List Call} {c : Call}

/-- A write at the end is the last one. -/
theorem LastWrite.of_writes {v : β} (h : writes c v) :
    LastWrite writes (history ++ [c]) (some v) :=
  ⟨history, c, [], rfl, h, fun _ hc => absurd hc List.not_mem_nil⟩

/-- A call that writes something else leaves the last write what it was. -/
theorem LastWrite.of_not_writes {r : Option β} (last : LastWrite writes history r)
    (h : ∀ v, ¬ writes c v) : LastWrite writes (history ++ [c]) r := by
  cases r with
  | none =>
      intro c' hc' v
      rcases List.mem_append.mp hc' with hc' | hc'
      · exact last c' hc' v
      · rw [List.mem_singleton.mp hc']
        exact h v
  | some v =>
      obtain ⟨before, w, after, rfl, hw, hafter⟩ := last
      refine ⟨before, w, after ++ [c], by simp, hw, ?_⟩
      intro c' hc' v'
      rcases List.mem_append.mp hc' with hc' | hc'
      · exact hafter c' hc' v'
      · rw [List.mem_singleton.mp hc']
        exact h v'

/-- Calls behind the seal of a block are not in front of it. -/
theorem beforeSeal_append (n : Nat) (history more : List Call) (h : n ≤ seals history) :
    beforeSeal n (history ++ more) = beforeSeal n history := by
  fun_induction beforeSeal n history with
  | case1 history => simp only [beforeSeal]
  | case2 n => exact absurd h (by simp [seals])
  | case3 rest => simp [beforeSeal]
  | case4 rest n ih =>
      simp only [List.cons_append, beforeSeal, if_true]
      rw [ih (by simpa [seals] using h)]
  | case5 n c rest other ih =>
      simp only [List.cons_append, beforeSeal, if_neg other]
      rw [ih (by simpa [seals, List.count_cons_of_ne other] using h)]

/-- In front of the next seal stands the whole history. -/
theorem beforeSeal_commit (history : List Call) :
    beforeSeal (seals history + 1) (history ++ [.commit]) = history := by
  induction history with
  | nil => simp [seals, beforeSeal]
  | cons c rest ih =>
      by_cases hc : c = .commit
      · subst hc
        simp only [seals, List.count_cons_self, List.cons_append, beforeSeal, if_true]
        exact congrArg _ ih
      · simp only [seals, List.count_cons_of_ne hc, List.cons_append, beforeSeal, if_neg hc]
        exact congrArg _ ih

end History

/-! ## The ledger mirrors its history -/

/-- The part of a state that some writes are about: nothing at first, the value of a write behind
it, and behind any other call what it was. -/
structure Tracks {β : Type} (writes : Call → β → Prop) (view : Snapshot → Option β) : Prop where
  empty : view .empty = none
  written : ∀ {l c l' v}, Effect l c l' → writes c v → view l'.pending.state = some v
  kept : ∀ {l c l'}, Effect l c l' → (∀ v, ¬ writes c v) →
    view l'.pending.state = view l.pending.state

/-- The pending state shows the last write of the history, and each sealed block the last one in
front of its seal. -/
structure Mirrors {β : Type} (writes : Call → β → Prop) (view : Snapshot → Option β)
    (history : List Call) (l : Ledger) : Prop where
  counted : Counted history l
  pending : LastWrite writes history (view l.pending.state)
  sealed : ∀ n block, l.blocks[n]? = some block →
    LastWrite writes (beforeSeal n history) (view block.state)

theorem tracks_account (a : Address) : Tracks (WritesAccount a) (·.account? a) where
  empty := rfl
  written := by
    intro l c l' v effect writes
    cases effect with
    | account spells =>
        rename_i address b account
        obtain ⟨spells', rfl⟩ := writes
        -- The same text spells both addresses, in whatever case and with or without a mark.
        have same : a = b := by
          cases a; cases b
          congr 1
          exact spells'.unique spells
        simp [same]
    | slot => exact absurd writes id
    | sealing => exact absurd writes id
    | full => exact absurd writes id
    | nothing _ silent => exact absurd writes (silent.1 a v)
  kept := by
    intro l c l' effect silent
    cases effect with
    | account spells =>
        rename_i address b account
        have other : a ≠ b := by
          rintro rfl
          exact silent account ⟨spells, rfl⟩
        simp [other]
    | slot => rfl
    | sealing => rfl
    | full => rfl
    | nothing => rfl

theorem tracks_slot (a : Address) (n : Nat) : Tracks (WritesSlot a n) (·.slot? a n) where
  empty := rfl
  written := by
    intro l c l' v effect writes
    cases effect with
    | account => exact absurd writes id
    | slot spells slot =>
        rename_i address position b m w
        obtain ⟨spells', slot', rfl⟩ := writes
        have same : a = b := by
          cases a; cases b
          congr 1
          exact spells'.unique spells
        have sameSlot : n = m := slot'.unique slot
        simp [same, sameSlot]
    | sealing => exact absurd writes id
    | full => exact absurd writes id
    | nothing _ silent => exact absurd writes (silent.2 a n v)
  kept := by
    intro l c l' effect silent
    cases effect with
    | account => rfl
    | slot spells slot =>
        rename_i address position b m w
        have other : ¬ (a = b ∧ n = m) := by
          rintro ⟨rfl, rfl⟩
          exact silent w ⟨spells, slot, rfl⟩
        simp only [Snapshot.slot?_setSlot, if_neg other]
    | sealing => rfl
    | full => rfl
    | nothing => rfl

section Mirrors

variable {β : Type} {writes : Call → β → Prop} {view : Snapshot → Option β}
  {history : List Call} {l : Ledger}

/-- A call that seals nothing keeps what is said of the sealed blocks. -/
theorem Mirrors.sealed_of_blocks_eq (mirrors : Mirrors writes view history l) {l' : Ledger}
    (same : l'.blocks = l.blocks) (c : Call) (n : Nat) (block : Block)
    (h : l'.blocks[n]? = some block) :
    LastWrite writes (beforeSeal n (history ++ [c])) (view block.state) := by
  rw [same] at h
  have room : n < l.blocks.length := (List.getElem?_eq_some_iff.mp h).1
  have length := mirrors.counted.length
  rw [beforeSeal_append n history [c] (by omega)]
  exact mirrors.sealed n block h

/-- One call keeps the mirror. -/
theorem Mirrors.serve (tracks : Tracks writes view) (mirrors : Mirrors writes view history l)
    (c : Call) : Mirrors writes view (history ++ [c]) (l.serve c).2 := by
  have counted := mirrors.counted.serve c
  have effect := serve_effect l c
  generalize (l.serve c).2 = l' at counted effect ⊢
  refine ⟨counted, ?_, ?_⟩
  · by_cases h : ∃ v, writes c v
    · obtain ⟨v, hv⟩ := h
      rw [tracks.written effect hv]
      exact .of_writes hv
    · have silent : ∀ v, ¬ writes c v := fun v hv => h ⟨v, hv⟩
      rw [tracks.kept effect silent]
      exact mirrors.pending.of_not_writes silent
  · cases effect with
    | account => exact mirrors.sealed_of_blocks_eq rfl _
    | slot => exact mirrors.sealed_of_blocks_eq rfl _
    | full => exact mirrors.sealed_of_blocks_eq rfl _
    | nothing => exact mirrors.sealed_of_blocks_eq rfl _
    | sealing room =>
        intro n block h
        rw [blocks_push] at h
        by_cases old : n < l.blocks.length
        · rw [List.getElem?_append_left old] at h
          exact mirrors.sealed_of_blocks_eq rfl _ n block h
        · -- The new block: its state is the one that was pending, behind the whole history.
          have number := mirrors.counted.number
          have length := mirrors.counted.length
          have bound := (List.getElem?_eq_some_iff.mp h).1
          rw [List.length_append, List.length_singleton] at bound
          obtain rfl : n = seals history + 1 := by omega
          rw [List.getElem?_append_right (by omega), show seals history + 1 - l.blocks.length = 0
            by omega] at h
          cases h
          rw [beforeSeal_commit]
          exact mirrors.pending

/-- The mirror holds behind every run. -/
theorem Mirrors.run (tracks : Tracks writes view) (calls : List Call) :
    Mirrors writes view calls (fresh.run calls) := by
  refine run_induction (fun _ _ c mirrors => mirrors.serve tracks c) calls [] fresh ?_
  have nothing : LastWrite writes [] (view Snapshot.empty) := by
    rw [tracks.empty]
    exact fun _ hc => absurd hc List.not_mem_nil
  refine ⟨⟨rfl, rfl⟩, nothing, ?_⟩
  intro n block h
  rw [blocks_fresh] at h
  obtain ⟨rfl, rfl⟩ : n = 0 ∧ Block.genesis = block := by
    simpa [List.getElem?_singleton] using h
  exact nothing

end Mirrors

/-! ## What every read finds -/

/-- Every read finds the last write of the history: at a sealed block the last one in front of its
seal, in the pending state the last one of all. -/
structure ReadsLastWrites (history : List Call) (l : Ledger) : Prop where
  account_at : ∀ (n : UInt64) (address : String) (a : Address), n.toNat ≤ l.head.number →
    Spells address a.bytes → ∃ found, l.getAccount address (.number n) = .ok found ∧
      LastWrite (WritesAccount a) (beforeSeal n.toNat history) found
  account_pending : ∀ (address : String) (a : Address), Spells address a.bytes →
    ∃ found, l.getAccount address .pending = .ok found ∧
      LastWrite (WritesAccount a) history found
  slot_at : ∀ (n : UInt64) (address position : String) (a : Address) (slot : Nat),
    n.toNat ≤ l.head.number → Spells address a.bytes → SpellsSlot position slot →
    ∃ found, l.getStorage address position (.number n) = .ok found ∧
      LastWrite (WritesSlot a slot) (beforeSeal n.toNat history) found
  slot_pending : ∀ (address position : String) (a : Address) (slot : Nat),
    Spells address a.bytes → SpellsSlot position slot →
    ∃ found, l.getStorage address position .pending = .ok found ∧
      LastWrite (WritesSlot a slot) history found

theorem readsLastWrites_run (calls : List Call) : ReadsLastWrites calls (fresh.run calls) where
  account_at := by
    intro n address a h spells
    have mirrors := Mirrors.run (tracks_account a) calls
    obtain ⟨block, hblock⟩ := mirrors.counted.block h
    exact ⟨_, getAccount_eq (resolve_number hblock) spells, mirrors.sealed _ block hblock⟩
  account_pending := by
    intro address a spells
    exact ⟨_, getAccount_eq rfl spells, (Mirrors.run (tracks_account a) calls).pending⟩
  slot_at := by
    intro n address position a slot h spells hslot
    have mirrors := Mirrors.run (tracks_slot a slot) calls
    obtain ⟨block, hblock⟩ := mirrors.counted.block h
    exact ⟨_, getStorage_eq (resolve_number hblock) spells hslot, mirrors.sealed _ block hblock⟩
  slot_pending := by
    intro address position a slot spells hslot
    exact ⟨_, getStorage_eq rfl spells hslot, (Mirrors.run (tracks_slot a slot) calls).pending⟩

/-! ## One key, refused writes, sealed blocks -/

/-- Two texts that spell addresses are one key exactly if they spell the same bytes. -/
theorem address_key_iff {s t : String} {a b : Address} (hs : Spells s a.bytes)
    (ht : Spells t b.bytes) : Address.read s = Address.read t ↔ a = b := by
  rw [← address_read_eq_ok_iff] at hs ht
  rw [hs, ht, Except.ok.injEq]

/-- Two texts that spell positions are one slot exactly if their bytes spell the same number. -/
theorem position_key_iff {s t : String} {p q : Bytes} (hs : Spells s p) (ht : Spells t q) :
    readPosition s = readPosition t ↔ bigEndian p = bigEndian q := by
  have hs := (readPosition_eq_ok_iff s _).mpr ⟨p, hs, rfl⟩
  have ht := (readPosition_eq_ok_iff t _).mpr ⟨q, ht, rfl⟩
  rw [hs, ht, Except.ok.injEq]

/-- The write has an address that does not spell 20 bytes, or a position that spells no number. -/
def Malformed : Call → Prop
  | .setAccount address _ => ∀ a : Address, ¬ Spells address a.bytes
  | .setStorage address position _ =>
      (∀ a : Address, ¬ Spells address a.bytes) ∨ ∀ n, ¬ SpellsSlot position n
  | _ => False

/-- The call is a write. -/
def IsWrite : Call → Prop
  | .setAccount .. => True
  | .setStorage .. => True
  | _ => False

/-- A write of an account is made exactly if the address spells 20 bytes. -/
theorem setAccount_written_iff (l : Ledger) (address : String) (account : Account) :
    (l.serve (.setAccount address account)).1 = .written ↔
      ¬ Malformed (.setAccount address account) := by
  simp only [Malformed, ← address_read_eq_ok_iff, serve, setAccount]
  cases Address.read address with
  | error fault => simp [afterWrite]
  | ok a => simp [afterWrite]

/-- A write of a slot is made exactly if the address spells 20 bytes and the position a number. -/
theorem setStorage_written_iff (l : Ledger) (address position : String) (v : Bytes) :
    (l.serve (.setStorage address position v)).1 = .written ↔
      ¬ Malformed (.setStorage address position v) := by
  have slot : ∀ n, SpellsSlot position n ↔ readPosition position = .ok n :=
    fun n => (readPosition_eq_ok_iff position n).symm
  simp only [Malformed, slot, ← address_read_eq_ok_iff, serve, setStorage]
  cases Address.read address with
  | error fault => simp [afterWrite]
  | ok a =>
      cases readPosition position with
      | error fault => simp [afterWrite]
      | ok n => simp [afterWrite]

/-- A write that is not made is refused. -/
theorem refused_of_not_written {l : Ledger} {c : Call} (hw : IsWrite c)
    (h : (l.serve c).1 ≠ .written) : ∃ fault, (l.serve c).1 = .refused fault := by
  have general : ∀ r : Except LedgerFault Ledger, (l.afterWrite r).1 ≠ .written →
      ∃ fault, (l.afterWrite r).1 = .refused fault := by
    intro r hr
    cases r with
    | error fault => exact ⟨fault, rfl⟩
    | ok written => exact absurd rfl hr
  cases c with
  | setAccount address account => exact general _ h
  | setStorage address position v => exact general _ h
  | commit => exact absurd hw id
  | getAccount => exact absurd hw id
  | getStorage => exact absurd hw id

/-- A malformed write is refused, and only such a write is. -/
theorem refused_iff (l : Ledger) {c : Call} (hw : IsWrite c) :
    (∃ fault, (l.serve c).1 = .refused fault) ↔ Malformed c := by
  have written : (l.serve c).1 = .written ↔ ¬ Malformed c := by
    cases c with
    | setAccount address account => exact setAccount_written_iff l address account
    | setStorage address position v => exact setStorage_written_iff l address position v
    | commit => exact absurd hw id
    | getAccount => exact absurd hw id
    | getStorage => exact absurd hw id
  constructor
  · rintro ⟨fault, h⟩
    refine Classical.byContradiction fun well => ?_
    rw [written.mpr well] at h
    cases h
  · intro h
    exact refused_of_not_written hw fun made => written.mp made h

/-- A call that is refused leaves the ledger as it was. -/
theorem serve_refused {l : Ledger} {c : Call} {fault : LedgerFault}
    (h : (l.serve c).1 = .refused fault) : (l.serve c).2 = l := by
  have write : ∀ r : Except LedgerFault Ledger, (l.afterWrite r).1 = .refused fault →
      (l.afterWrite r).2 = l := by
    intro r hr
    cases r with
    | error fault => rfl
    | ok written => cases hr
  cases c with
  | setAccount address account => exact write _ h
  | setStorage address position v => exact write _ h
  | commit =>
      simp only [serve] at h
      split at h <;> cases h
  | getAccount => rfl
  | getStorage => rfl

/-- A read at a sealed block is not changed by later calls. -/
theorem resolve_number_run {l : Ledger} {history : List Call} (counted : Counted history l)
    (more : List Call) {n : UInt64} (h : n.toNat ≤ l.head.number) :
    (l.run more).resolve (.number n) = l.resolve (.number n) := by
  obtain ⟨block, hblock⟩ := counted.block h
  have bound := (List.getElem?_eq_some_iff.mp hblock).1
  obtain ⟨added, hadded⟩ := blocks_prefix_run more l
  have later : (l.run more).blocks[n.toNat]? = some block := by
    rw [← hadded, List.getElem?_append_left bound, hblock]
  rw [resolve_number hblock, resolve_number later]

/-- **The ledger is its history.** Behind every run of calls from the fresh ledger on:

* a read at a block number finds the last write to its key that was made in front of the commit of
  that block, and a read of the pending state finds the last one of all;
* two addresses are one key exactly if they spell the same 20 bytes, and two positions exactly if
  they spell the same number, however many zero bytes stand in front;
* a write is refused exactly if its texts spell no address or no position, and then all later calls
  are answered as if it had not been made;
* later calls do not change what is read at a block that is sealed. -/
theorem reads_last_writes (calls : List Call) :
    ReadsLastWrites calls (fresh.run calls) ∧
    (∀ (s t : String) (a b : Address), Spells s a.bytes → Spells t b.bytes →
      (Address.read s = Address.read t ↔ a = b)) ∧
    (∀ s t p q, Spells s p → Spells t q →
      (readPosition s = readPosition t ↔ bigEndian p = bigEndian q)) ∧
    (∀ count bytes, bigEndian (List.replicate count 0 ++ bytes) = bigEndian bytes) ∧
    (∀ c, IsWrite c → (Malformed c ↔ ∃ fault, ((fresh.run calls).serve c).1 = .refused fault)) ∧
    (∀ c fault more, ((fresh.run calls).serve c).1 = .refused fault →
      (fresh.run calls).answers (c :: more) = .refused fault :: (fresh.run calls).answers more) ∧
    ∀ (more : List Call) (n : UInt64), n.toNat ≤ (fresh.run calls).head.number →
      (∀ address, (fresh.run (calls ++ more)).getAccount address (.number n) =
        (fresh.run calls).getAccount address (.number n)) ∧
      ∀ address position, (fresh.run (calls ++ more)).getStorage address position (.number n) =
        (fresh.run calls).getStorage address position (.number n) := by
  refine ⟨readsLastWrites_run calls, fun s t a b => address_key_iff,
    fun s t p q => position_key_iff, bigEndian_replicate_zero,
    fun c hw => (refused_iff _ hw).symm, ?_, ?_⟩
  · intro c fault more h
    rw [answers, h, serve_refused h]
  · intro more n h
    have same := resolve_number_run (counted_run calls) more h
    rw [run_append]
    constructor
    · intro address
      rw [getAccount, getAccount, same]
    · intro address position
      rw [getStorage, getStorage, same]

/-- The address of 20 bytes `ab`. -/
def repeatedAddress : Address := ⟨List.replicate 20 0xab, rfl⟩

/-- Two writes to one account in two spellings, the first of them sealed, and a refused one. -/
def twoSpellings : List Call :=
  [.setAccount "0xABabABabABabABabABabABabABabABabABabABab" ⟨100, [], 0⟩,
   .setAccount "zz" ⟨9, [], 0⟩, .commit,
   .setAccount "abababababababababababababababababababab" ⟨250, [], 0⟩]

/-- In that history a third spelling reads the first write at block 1 and the second one in the
pending state, and the refused write is answered as if it had not been made. -/
theorem reads_last_writes_two_spellings :
    (1 : UInt64).toNat ≤ (fresh.run twoSpellings).head.number ∧
    Spells "0XABABABABABABABABABABABABABABABABABABABAB" repeatedAddress.bytes ∧
    (∃ found, (fresh.run twoSpellings).getAccount "0XABABABABABABABABABABABABABABABABABABABAB"
        (.number 1) = .ok found ∧
      LastWrite (WritesAccount repeatedAddress) (beforeSeal 1 twoSpellings) found) ∧
    (∃ fault, ((fresh.run twoSpellings).serve (.setAccount "zz" ⟨9, [], 0⟩)).1 = .refused fault ∧
      (fresh.run twoSpellings).answers [.setAccount "zz" ⟨9, [], 0⟩, .commit] =
        .refused fault :: (fresh.run twoSpellings).answers [.commit]) := by
  have reached : (1 : UInt64).toNat ≤ (fresh.run twoSpellings).head.number := by decide
  have spells : Spells "0XABABABABABABABABABABABABABABABABABABABAB" repeatedAddress.bytes :=
    (Hex.read_eq_ok_iff _ _).mp rfl
  have refused : ((fresh.run twoSpellings).serve (.setAccount "zz" ⟨9, [], 0⟩)).1 =
      .refused (.malformedAddress "zz" ⟨0⟩) := rfl
  have general := reads_last_writes twoSpellings
  exact ⟨reached, spells, general.1.account_at 1 _ _ reached spells, _, refused,
    general.2.2.2.2.2.1 _ _ _ refused⟩

end LedgerGateway.Ledger
