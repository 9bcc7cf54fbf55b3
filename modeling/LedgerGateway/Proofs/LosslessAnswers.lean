import LedgerGateway.Proofs.Quantities
import LedgerGateway.Proofs.StoragePositions

/-!
# Nothing is lost on the wire

What an account or a slot holds can be read off the answer: the balance is the value of a text that
is the only one of its kind, and code and slots are decoded to the bytes that were written. Nothing
that was written is answered with null, be it zero or empty, and all that was not written is. What
counts as written are the calls that the selected state has behind it.

* `Behind`, `exists_behind` — the calls behind a block key; the state that it selects shows the last
  write among them.
* `LastWrite.unique` — there is one last write at most.
* `TellsBalance`, `TellsData` — what an answer tells of the last write.
* `answers_lossless` — the three methods together, for each ledger in memory.
-/

namespace LedgerGateway.Ledger

open Hex (Bytes)

/-! ## The calls behind a state -/

/-- The calls that the state of a block key has behind it: all of them for the pending state, and
those in front of its seal for a block. -/
inductive Behind (calls : List Call) : BlockKey → List Call → Prop where
  | pending : Behind calls .pending calls
  | latest : Behind calls .latest (beforeSeal (fresh.run calls).head.number calls)
  | number {n : UInt64} : n.toNat ≤ (fresh.run calls).head.number →
      Behind calls (.number n) (beforeSeal n.toNat calls)
  | hash {b block} : Newest (fresh.run calls) b block →
      Behind calls (.hash b) (beforeSeal block.number calls)

/-- Every state that a block key selects has calls behind it and shows the last write among them. -/
theorem exists_behind {calls : List Call} {key : BlockKey} {state : Snapshot}
    (h : (fresh.run calls).resolve key = .ok state) :
    ∃ history, Behind calls key history ∧
      ∀ {β : Type} {writes : Call → β → Prop} {view : Snapshot → Option β}, Tracks writes view →
        LastWrite writes history (view state) := by
  have counted := counted_run calls
  have chained := chained_run calls
  cases key with
  | pending =>
    obtain rfl := Except.ok.inj h
    exact ⟨_, .pending, fun tracks => (Mirrors.run tracks calls).pending⟩
  | latest =>
    obtain rfl := Except.ok.inj h
    refine ⟨_, .latest, fun tracks => ?_⟩
    exact (Mirrors.run tracks calls).sealed _ _ counted.head_block
  | number n =>
    rcases Nat.lt_or_ge (fresh.run calls).head.number n.toNat with behind | within
    · cases h.symm.trans (counted.resolve_number_of_lt behind)
    · obtain ⟨block, listed, resolved⟩ := resolve_number_of_le counted within
      obtain rfl := Except.ok.inj (resolved.symm.trans h)
      exact ⟨_, .number within, fun tracks => (Mirrors.run tracks calls).sealed _ _ listed⟩
  | hash b =>
    by_cases known : ∃ block ∈ (fresh.run calls).blocks, block.hash = b
    · obtain ⟨block, newest, resolved⟩ := resolve_hash_of_mem chained known
      obtain rfl := Except.ok.inj (resolved.symm.trans h)
      obtain ⟨i, listed⟩ := List.getElem?_of_mem newest.sealed
      refine ⟨_, .hash newest, fun tracks => ?_⟩
      rw [chained.number _ _ listed]
      exact (Mirrors.run tracks calls).sealed _ _ listed
    · have unknown : ∀ block ∈ (fresh.run calls).blocks, block.hash ≠ b :=
        fun block mem same => known ⟨block, mem, same⟩
      cases h.symm.trans (chained.resolve_hash_of_not_mem unknown)

/-! ## Last writes -/

section LastWrite

variable {β γ : Type} {writes : Call → β → Prop} {view : Snapshot → Option β}

/-- A history has one last write at most, if a call writes one value at most. -/
theorem LastWrite.unique (functional : ∀ c v v', writes c v → writes c v' → v = v')
    {history : List Call} {r r' : Option β} (h : LastWrite writes history r)
    (h' : LastWrite writes history r') : r = r' := by
  rcases r with _ | v <;> rcases r' with _ | v'
  · rfl
  · obtain ⟨before, c, after, rfl, hc, -⟩ := h'
    exact absurd hc (h c (by simp) v')
  · obtain ⟨before, c, after, rfl, hc, -⟩ := h
    exact absurd hc (h' c (by simp) v)
  · obtain ⟨before, c, after, rfl, hc, last⟩ := h
    obtain ⟨before', c', after', split, hc', last'⟩ := h'
    -- Either the two calls are one, or one of them stands behind the other.
    rcases List.append_eq_append_iff.1 split with ⟨more, -, rest⟩ | ⟨more, -, rest⟩
    · cases more with
      | nil =>
        obtain ⟨rfl, -⟩ := List.cons.inj rest
        rw [functional c v v' hc hc']
      | cons d more =>
        obtain ⟨rfl, rfl⟩ := List.cons.inj rest
        exact absurd hc' (last c' (by simp) v')
    · cases more with
      | nil =>
        obtain ⟨rfl, -⟩ := List.cons.inj rest
        rw [functional _ v v' hc hc']
      | cons d more =>
        obtain ⟨rfl, rfl⟩ := List.cons.inj rest
        exact absurd hc (last' c (by simp) v)

/-- What is tracked of a state is tracked of its parts. -/
theorem Tracks.map (tracks : Tracks writes view) (part : β → γ) :
    Tracks (fun c w => ∃ v, writes c v ∧ part v = w) fun state => (view state).map part where
  empty := by rw [tracks.empty]; rfl
  written := by
    rintro l c l' w effect ⟨v, hv, rfl⟩
    rw [tracks.written effect hv]
    rfl
  kept := by
    intro l c l' effect silent
    rw [tracks.kept effect fun v hv => silent (part v) ⟨v, hv, rfl⟩]

end LastWrite

/-- The call is a write of the account at an address, with a balance. -/
def WritesBalance (a : Address) (c : Call) (balance : Int) : Prop :=
  ∃ account, WritesAccount a c account ∧ account.balance = balance

/-- The call is a write of the account at an address, with a code. -/
def WritesCode (a : Address) (c : Call) (code : Bytes) : Prop :=
  ∃ account, WritesAccount a c account ∧ account.code = code

theorem writesAccount_functional (a : Address) (c : Call) (v v' : Account)
    (h : WritesAccount a c v) (h' : WritesAccount a c v') : v = v' := by
  cases c with
  | setAccount address account => exact h.2.symm.trans h'.2
  | _ => exact absurd h id

theorem writesSlot_functional (a : Address) (n : Nat) (c : Call) (v v' : Bytes)
    (h : WritesSlot a n c v) (h' : WritesSlot a n c v') : v = v' := by
  cases c with
  | setStorage address position w => exact h.2.2.symm.trans h'.2.2
  | _ => exact absurd h id

theorem writesPart_functional {γ : Type} (part : Account → γ) (a : Address) (c : Call) (w w' : γ)
    (h : ∃ account, WritesAccount a c account ∧ part account = w)
    (h' : ∃ account, WritesAccount a c account ∧ part account = w') : w = w' := by
  obtain ⟨v, hv, rfl⟩ := h
  obtain ⟨v', hv', rfl⟩ := h'
  rw [writesAccount_functional a c v v' hv hv']

end LedgerGateway.Ledger

namespace LedgerGateway.Rpc

open Hex (Bytes)
open Ledger (Call Behind LastWrite WritesBalance WritesCode WritesSlot SpellsSlot)

/-! ## Answers -/

/-- The body is one request for a method, with parameters and an id that can be written. -/
structure Poses (room : Json.Room) (body : Body) (id : Json) (name : String) (params : Json) :
    Prop where
  owed : id ≠ .null
  bounded : body.Bounded room.depth
  request : ∃ v, body.Spells room.depth v ∧ Asks v name ∧ carriedParams v = params ∧ carriedId v = id

section Poses

variable {room : Json.Room} {body : Body} {id params : Json} {name : String} {m : Method}
  {client : LedgerClient} (h : Poses room body id name params)
  (found : accountTable.find? name = some m)

include h found

theorem Poses.reply {w : Json} (ended : (m params client).value = .ok (.value w)) :
    (handle room accountTable client body).value = resultAnswer id w := by
  obtain ⟨owed, bounded, v, spelt, asks, rfl, rfl⟩ := h
  exact answer_of_reply spelt bounded asks found owed ended

theorem Poses.crash {c : Crash} (ended : (m params client).value = .error (.crashed c)) :
    (handle room accountTable client body).value = errorAnswer id .internal := by
  obtain ⟨owed, bounded, v, spelt, asks, rfl, rfl⟩ := h
  exact answer_of_crash spelt bounded asks found owed ended

end Poses

/-- The answer tells the balance that was written last: null if none was, and else the only text of
its kind that has this balance for its value. -/
structure TellsBalance (last : Option Int → Prop) (id : Json)
    (answer : Except ServeFault (Option String)) : Prop where
  null_iff : answer = resultAnswer id .null ↔ last none
  quantity : ∀ balance : Nat, last (some balance) →
    ∃ s, answer = resultAnswer id (.string s) ∧ ∀ t, Hex.IsQuantity t balance ↔ t = s

/-- The answer tells the bytes that were written last: null if none were, and else a text that is
decoded to them and no longer than it has to be. -/
structure TellsData (last : Option Bytes → Prop) (id : Json)
    (answer : Except ServeFault (Option String)) : Prop where
  null_iff : answer = resultAnswer id .null ↔ last none
  data : ∀ bytes, last (some bytes) → ∃ s, answer = resultAnswer id (.string s) ∧
    Hex.read s = .ok bytes ∧ s.length = 2 + 2 * bytes.length

theorem resultAnswer_string_ne_null (id : Json) (s : String) :
    resultAnswer id (.string s) ≠ resultAnswer id .null := by
  intro h
  have same := (resultAnswer_inj .string .null .string .null).1 h
  simp at same

/-- What is answered for a balance that was found. -/
def balanceAnswer (id : Json) : Option Int → Except ServeFault (Option String)
  | none => resultAnswer id .null
  | some (.ofNat n) => resultAnswer id (.string (Hex.quantity n))
  | some (.negSucc _) => errorAnswer id .internal

/-- What is answered for bytes that were found. -/
def dataAnswer (id : Json) : Option Bytes → Except ServeFault (Option String)
  | none => resultAnswer id .null
  | some bytes => resultAnswer id (.string (Hex.marked (Hex.encode bytes)))

theorem tellsBalance_of_last {last : Option Int → Prop}
    (unique : ∀ {r r'}, last r → last r' → r = r') {found : Option Int} (h : last found)
    (id : Json) : TellsBalance last id (balanceAnswer id found) := by
  constructor
  · rcases found with _ | _ | _
    · exact ⟨fun _ => h, fun _ => rfl⟩
    · refine ⟨fun null => absurd null (resultAnswer_string_ne_null id _), fun none => ?_⟩
      cases unique h none
    · refine ⟨fun null => absurd null.symm (resultAnswer_ne_errorAnswer id _ _), fun none => ?_⟩
      cases unique h none
  · intro balance written
    obtain rfl := unique h written
    exact ⟨_, rfl, fun t => Hex.isQuantity_iff⟩

theorem tellsData_of_last {last : Option Bytes → Prop}
    (unique : ∀ {r r'}, last r → last r' → r = r') {found : Option Bytes} (h : last found)
    (id : Json) : TellsData last id (dataAnswer id found) := by
  constructor
  · cases found with
    | none => exact ⟨fun _ => h, fun _ => rfl⟩
    | some bytes =>
      refine ⟨fun null => absurd null (resultAnswer_string_ne_null id _), fun none => ?_⟩
      cases unique h none
  · intro bytes written
    obtain rfl := unique h written
    exact ⟨_, rfl, Hex.read_marked_encode bytes, Hex.length_marked_encode bytes⟩

/-! ## The three methods -/

section Methods

variable {l : Ledger} {key : BlockKey} {state : Snapshot} {address position selector : String}
  {a : Address} {room : Json.Room} {body : Body} {id : Json}

theorem balance_answer (denotes : Denotes address a)
    (parsed : BlockKey.parseText selector = .ok key) (resolved : l.resolve key = .ok state)
    (poses : Poses room body id "eth_getBalance" (.array [.string address, .string selector])) :
    (handle room accountTable l.client body).value =
      balanceAnswer id ((state.account? a).map Account.balance) := by
  have found : accountTable.find? "eth_getBalance" = some getBalance := rfl
  have ended : (getBalance (.array [.string address, .string selector]) l.client).value =
      endingOf balanceReply (.ok (state.account? a)) := by
    rw [getBalance, accountMethod_of_key _ _ denotes parsed, resolved]
  cases account : state.account? a with
  | none =>
    rw [account] at ended
    exact poses.reply found ended
  | some entry =>
    obtain ⟨balance, code, nonce⟩ := entry
    rw [account] at ended
    cases balance with
    | ofNat n => exact poses.reply found ended
    | negSucc n => exact poses.crash found ended

theorem code_answer (denotes : Denotes address a)
    (parsed : BlockKey.parseText selector = .ok key) (resolved : l.resolve key = .ok state)
    (poses : Poses room body id "eth_getCode" (.array [.string address, .string selector])) :
    (handle room accountTable l.client body).value =
      dataAnswer id ((state.account? a).map Account.code) := by
  have found : accountTable.find? "eth_getCode" = some getCode := rfl
  have ended : (getCode (.array [.string address, .string selector]) l.client).value =
      endingOf (fun account => .ok (dataReply account.code)) (.ok (state.account? a)) := by
    rw [getCode, accountMethod_of_key _ _ denotes parsed, resolved]
  cases account : state.account? a with
  | none =>
    rw [account] at ended
    exact poses.reply found ended
  | some entry =>
    rw [account] at ended
    exact poses.reply found ended

/-- A position that is long enough and even, and behind two characters spells the slot. -/
structure NamesSlot (position : String) (n : Nat) : Prop where
  long : 4 ≤ position.length
  even : position.length % 2 = 0
  spells : SpellsSlot (withoutMark position) n

theorem slot_answer {n : Nat} (denotes : Denotes address a) (names : NamesSlot position n)
    (parsed : BlockKey.parseText selector = .ok key) (resolved : l.resolve key = .ok state)
    (poses : Poses room body id "eth_getStorageAt"
      (.array [.string address, .string position, .string selector])) :
    (handle room accountTable l.client body).value = dataAnswer id (state.slot? a n) := by
  obtain ⟨owed, bounded, v, spelt, asks, params, rfl⟩ := poses
  obtain ⟨bytes, spells, rfl⟩ := names.spells
  rw [handle_storageAt denotes parsed spelt bounded asks params owed,
    slotAnswer_of_spells a _ ⟨names.long, names.even⟩ resolved spells, slotIn]
  cases state.slot? a (bigEndian bytes) <;> rfl

end Methods

/-- The answers about an account tell what was written to it last, in a history. -/
structure Lossless (l : Ledger) (history : List Call) (address selector : String) (a : Address) :
    Prop where
  balance : ∀ {room body id},
    Poses room body id "eth_getBalance" (.array [.string address, .string selector]) →
    TellsBalance (LastWrite (WritesBalance a) history) id
      (handle room accountTable l.client body).value
  code : ∀ {room body id},
    Poses room body id "eth_getCode" (.array [.string address, .string selector]) →
    TellsData (LastWrite (WritesCode a) history) id
      (handle room accountTable l.client body).value
  slot : ∀ {position n}, NamesSlot position n → ∀ {room body id},
    Poses room body id "eth_getStorageAt"
      (.array [.string address, .string position, .string selector]) →
    TellsData (LastWrite (WritesSlot a n) history) id
      (handle room accountTable l.client body).value

/-- **Nothing is lost.** Behind every run of calls, and at every block key that there is a state
for, the answers about an account tell what was written to it last before that state was sealed. -/
theorem answers_lossless (calls : List Call) {selector : String} {key : BlockKey}
    (parsed : BlockKey.parseText selector = .ok key)
    (known : ∃ state, (Ledger.fresh.run calls).resolve key = .ok state) :
    ∃ history, Behind calls key history ∧ ∀ {address a}, Denotes address a →
      Lossless (Ledger.fresh.run calls) history address selector a := by
  obtain ⟨state, resolved⟩ := known
  obtain ⟨history, behind, shows⟩ := Ledger.exists_behind resolved
  refine ⟨history, behind, ?_⟩
  intro address a denotes
  constructor
  · intro room body id poses
    rw [balance_answer denotes parsed resolved poses]
    apply tellsBalance_of_last (LastWrite.unique (Ledger.writesPart_functional _ a))
    exact shows ((Ledger.tracks_account a).map Account.balance)
  · intro room body id poses
    rw [code_answer denotes parsed resolved poses]
    apply tellsData_of_last (LastWrite.unique (Ledger.writesPart_functional _ a))
    exact shows ((Ledger.tracks_account a).map Account.code)
  · intro position n names room body id poses
    rw [slot_answer denotes names parsed resolved poses]
    apply tellsData_of_last (LastWrite.unique (Ledger.writesSlot_functional a n))
    exact shows (Ledger.tracks_slot a n)

/-- An account without balance or code and an empty slot, sealed in block 1. -/
def emptyValues : List Call :=
  [.setAccount "abababababababababababababababababababab" ⟨0, [], 0⟩,
   .setStorage "abababababababababababababababababababab" "07" [], .commit]

/-- A request for the balance of that account as of block 1. -/
def oldBalanceRequest : Json :=
  requestFor "eth_getBalance"
    (.array [.string "0xabababababababababababababababababababab", .string "0x1"]) (.int 1)

theorem answers_lossless_empty_values :
    BlockKey.parseText "0x1" = .ok (.number 1) ∧
      (∃ state, (Ledger.fresh.run emptyValues).resolve (.number 1) = .ok state) ∧
      (∃ body, Poses .thousand body (.int 1) "eth_getBalance"
        (.array [.string "0xabababababababababababababababababababab", .string "0x1"])) ∧
      NamesSlot "0x07" 7 ∧
      ∃ history, Behind emptyValues (.number 1) history ∧
        Lossless (Ledger.fresh.run emptyValues) history
          "0xabababababababababababababababababababab" "0x1" Ledger.repeatedAddress := by
  have parsed : BlockKey.parseText "0x1" = .ok (.number 1) := rfl
  have known : ∃ state, (Ledger.fresh.run emptyValues).resolve (.number 1) = .ok state := ⟨_, rfl⟩
  have named : NamesSlot "0x07" 7 :=
    ⟨by decide, by decide, [7], (Hex.read_eq_ok_iff _ _).1 rfl, rfl⟩
  obtain ⟨history, behind, lossless⟩ := answers_lossless emptyValues parsed known
  have bounded : (Body.value oldBalanceRequest).Bounded Json.Room.thousand.depth :=
    Json.fault?_eq_none_iff.1 (by decide)
  have poses : Poses .thousand (.value oldBalanceRequest) (.int 1) "eth_getBalance" _ :=
    ⟨by simp, bounded, oldBalanceRequest, rfl, asks_requestFor (by decide) _ _, rfl, rfl⟩
  exact ⟨parsed, known, ⟨_, poses⟩, named, history, behind, lossless denotes_repeatedAddress⟩

end LedgerGateway.Rpc
