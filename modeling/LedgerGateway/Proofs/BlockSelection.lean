import LedgerGateway.Proofs.AccountReads
import LedgerGateway.Proofs.CanonicalSelectors
import LedgerGateway.Proofs.ResolvedBlocks
import LedgerGateway.Proofs.WireAnswers

/-!
# Which block answers a request

The last parameter of a question selects a block, by a tag, a number or a hash. A question is
answered from that block or refused, and never answered from another one.

* `Reads` — what a question asks of a state; `Reads.value_of_key` and `value_of_fault` tell how the
  method ends that it is put to.
* `unknown_iff` — which selectors there is no block for.
* `FollowsKey` — an answer that is settled by the key of the selector; then it is from the block
  that is selected (`FollowsKey.fromSelected`).
* `answers_from_selected` — the answers over the wire, for all selectors and all ledgers.
-/

namespace LedgerGateway.Rpc

open Ledger (Call Chained Counted Newest AllSolvent Solvent)

/-! ## Questions -/

/-- What the methods on accounts can be asked, in the texts of the parameters. -/
inductive Question where
  | balance (address : String)
  | code (address : String)
  | slot (address position : String)

/-- A position on the wire: `0x` and an even number of digits, at least two. -/
def IsPosition (position : String) : Prop :=
  ∃ ds, position.toList = '0' :: 'x' :: ds ∧ Hex.EvenDigits ds

theorem IsPosition.digits {position : String} (h : IsPosition position) :
    Hex.EvenDigits (position.toList.drop 2) := by
  obtain ⟨ds, text, digits⟩ := h
  rwa [text]

/-- The balance of an account as it is told; null if there is no such account. -/
def balanceIn (a : Address) (state : Snapshot) : Json :=
  match state.account? a with
  | some account => .string (Hex.quantity account.balance.toNat)
  | none => .null

/-- The code of an account as it is told. -/
def codeIn (a : Address) (state : Snapshot) : Json :=
  match state.account? a with
  | some account => .string (Hex.marked (Hex.encode account.code))
  | none => .null

/-- The value of a slot as it is told. -/
def slotIn (a : Address) (n : Nat) (state : Snapshot) : Json :=
  match state.slot? a n with
  | some v => .string (Hex.marked (Hex.encode v))
  | none => .null

namespace Question

/-- The method that answers the question. -/
def method : Question → String × Method
  | .balance _ => ("eth_getBalance", getBalance)
  | .code _ => ("eth_getCode", getCode)
  | .slot _ _ => ("eth_getStorageAt", getStorageAt)

/-- The parameters that put the question to the block of a selector. -/
def params (selector : String) : Question → Json
  | .balance address => .array [.string address, .string selector]
  | .code address => .array [.string address, .string selector]
  | .slot address position => .array [.string address, .string position, .string selector]

/-- The texts name an account, and a slot if it is about one. -/
def WellFormed : Question → Prop
  | .balance address => IsAddress address
  | .code address => IsAddress address
  | .slot address position => IsAddress address ∧ IsPosition position

/-- What the question asks of a state: a part of the account that the address denotes, or the slot
of the number that the digits of the position spell. -/
inductive Reads : Question → (Snapshot → Json) → Prop where
  | balance {address a} : Denotes address a → Reads (.balance address) (balanceIn a)
  | code {address a} : Denotes address a → Reads (.code address) (codeIn a)
  | slot {address position a n} : Denotes address a → IsPosition position →
      Hex.value? (position.toList.drop 2) = some n → Reads (.slot address position) (slotIn a n)

theorem exists_reads {q : Question} (h : q.WellFormed) : ∃ reads, q.Reads reads := by
  cases q with
  | balance address =>
    obtain ⟨a, denotes⟩ := IsAddress.denotes h
    exact ⟨_, .balance denotes⟩
  | code address =>
    obtain ⟨a, denotes⟩ := IsAddress.denotes h
    exact ⟨_, .code denotes⟩
  | slot address position =>
    obtain ⟨a, denotes⟩ := h.1.denotes
    obtain ⟨n, value, -⟩ := readPosition_of_digits h.2.digits
    exact ⟨_, .slot denotes h.2 value⟩

theorem find?_method (q : Question) : accountTable.find? q.method.1 = some q.method.2 := by
  cases q <;> rfl

variable {l : Ledger} {selector : String}

/-- A question is answered from the state that its key selects, or fails for want of one. -/
theorem Reads.value_of_key {q : Question} {reads : Snapshot → Json} (h : q.Reads reads)
    {key : BlockKey} (parsed : BlockKey.parseText selector = .ok key)
    (solvent : ∀ state, l.resolve key = .ok state → Solvent state) :
    (q.method.2 (q.params selector) l.client).value =
      match l.resolve key with
      | .ok state => .ok (.value (reads state))
      | .error _ => .error (.refused .internal) := by
  cases h with
  | @balance address a denotes =>
    refine (accountMethod_of_key _ _ denotes parsed).trans ?_
    cases resolved : l.resolve key with
    | error fault => rfl
    | ok state =>
      cases found : state.account? a with
      | none => simp [endingOf, balanceIn, found]
      | some account =>
        have sign := solvent state resolved a account found
        obtain ⟨balance, code, nonce⟩ := account
        obtain ⟨n, rfl⟩ := Int.eq_ofNat_of_zero_le sign
        simp only [endingOf, balanceIn, found]
        rfl
  | @code address a denotes =>
    refine (accountMethod_of_key _ _ denotes parsed).trans ?_
    cases l.resolve key with
    | error fault => rfl
    | ok state => cases found : state.account? a <;> simp [endingOf, codeIn, found, dataReply]
  | @slot address position a n denotes wellFormed value =>
    obtain ⟨m, value', slot⟩ := readPosition_of_digits wellFormed.digits
    obtain rfl := Option.some.inj (value.symm.trans value')
    refine (getStorageAt_of_key denotes parsed position).trans ?_
    rw [if_pos (long_of_digits wellFormed.digits), slot]
    cases l.resolve key with
    | error fault => rfl
    | ok state => cases found : state.slot? a n <;> simp [endingOf, slotIn, found, dataReply]

/-- A question is refused if its selector selects no block. -/
theorem value_of_fault (q : Question) (client : LedgerClient) {kind : BlockKey.FaultKind}
    (parsed : BlockKey.parseText selector = .error kind) :
    (q.method.2 (q.params selector) client).value =
      .error (.refused (selectorError kind)) := by
  cases q with
  | balance address => exact accountMethod_of_fault _ _ client address parsed
  | code address => exact accountMethod_of_fault _ _ client address parsed
  | slot address position => exact getStorageAt_of_fault client address position parsed

end Question

/-! ## Selectors and the blocks there are -/

/-- There is a block for what the text selects. -/
def Known (l : Ledger) (selector : String) : Prop :=
  selector = "pending" ∨ selector = "latest" ∨
    (∃ n, BlockKey.parseText selector = .ok (.number n) ∧ n.toNat ≤ l.head.number) ∨
    ∃ b, BlockKey.parseText selector = .ok (.hash b) ∧ ∃ block ∈ l.blocks, block.hash = b

/-- The text selects by a number behind the newest block, or by a hash that no block has. -/
def Unknown (l : Ledger) (selector : String) : Prop :=
  (∃ n, BlockKey.parseText selector = .ok (.number n) ∧ l.head.number < n.toNat) ∨
    ∃ b, BlockKey.parseText selector = .ok (.hash b) ∧ ∀ block ∈ l.blocks, block.hash ≠ b

section Selecting

variable {l : Ledger} {history : List Call} {selector : String}

/-- A key that no state answers is behind the newest block or a hash that no block has. -/
theorem unknown_iff (chained : Chained l) (counted : Counted history l) {key : BlockKey}
    (parsed : BlockKey.parseText selector = .ok key) :
    Unknown l selector ↔ ∃ fault, l.resolve key = .error fault := by
  constructor
  · rintro (⟨n, number, behind⟩ | ⟨b, hash, none_⟩)
    · obtain rfl := Except.ok.inj (number.symm.trans parsed)
      exact ⟨_, counted.resolve_number_of_lt behind⟩
    · obtain rfl := Except.ok.inj (hash.symm.trans parsed)
      exact ⟨_, chained.resolve_hash_of_not_mem none_⟩
  · rintro ⟨fault, failed⟩
    cases BlockKey.form_of_parseText parsed with
    | latest => cases failed
    | pending => cases failed
    | @number n _ =>
      refine .inl ⟨n, parsed, Nat.lt_of_not_le fun within => ?_⟩
      obtain ⟨block, -, resolved⟩ := Ledger.resolve_number_of_le counted within
      rw [resolved] at failed
      cases failed
    | @hash b _ =>
      refine .inr ⟨b, parsed, fun block mem same => ?_⟩
      obtain ⟨newest, -, resolved⟩ := Ledger.resolve_hash_of_mem chained ⟨block, mem, same⟩
      rw [resolved] at failed
      cases failed

/-- There is a block for a key unless the key is unknown. -/
theorem known_of_not_unknown {key : BlockKey}
    (parsed : BlockKey.parseText selector = .ok key) (h : ¬ Unknown l selector) :
    Known l selector := by
  cases BlockKey.form_of_parseText parsed with
  | latest latest => exact .inr (.inl latest)
  | pending pending => exact .inl pending
  | @number n _ =>
    refine .inr (.inr (.inl ⟨n, parsed, Nat.le_of_not_lt fun behind => ?_⟩))
    exact h (.inl ⟨n, parsed, behind⟩)
  | @hash b _ =>
    refine .inr (.inr (.inr ⟨b, parsed, ?_⟩))
    by_contra none_
    exact h (.inr ⟨b, parsed, fun block mem same => none_ ⟨block, mem, same⟩⟩)

end Selecting

/-! ## Answers for each selector -/

/-- The answer under an id is from the block that a selector selects: a result that is read off the
state of that block, or an error that tells why there is none. -/
structure FromSelected (l : Ledger) (selector : String) (id : Json) (reads : Snapshot → Json)
    (answer : Except ServeFault (Option String)) : Prop where
  pending : selector = "pending" → answer = resultAnswer id (reads l.pending.state)
  latest : selector = "latest" → ∃ block, l.blocks[l.head.number]? = some block ∧
    answer = resultAnswer id (reads block.state)
  number : ∀ n, BlockKey.parseText selector = .ok (.number n) → n.toNat ≤ l.head.number →
    ∃ block, l.blocks[n.toNat]? = some block ∧ answer = resultAnswer id (reads block.state)
  hash : ∀ b, BlockKey.parseText selector = .ok (.hash b) →
    (∃ block ∈ l.blocks, block.hash = b) →
    ∃ block, Newest l b block ∧ answer = resultAnswer id (reads block.state)
  error : ¬ Known l selector → ∃ e, answer = errorAnswer id e
  unsupported : answer = errorAnswer id ⟨-32004, "Not implemented"⟩ ↔
    BlockKey.parseText selector = .error .unsupported
  invalid : answer = errorAnswer id ⟨-32602, "Failed to parse block number"⟩ ↔
    BlockKey.parseText selector = .error .invalid
  unknown : answer = errorAnswer id ⟨-32603, "Internal error"⟩ ↔ Unknown l selector

/-- The answer under an id follows the selector: a text that selects nothing is refused, and a key
is answered with a result if there is a state for it and with an internal error if there is not. -/
structure FollowsKey (l : Ledger) (selector : String) (id : Json) (reads : Snapshot → Json)
    (answer : Except ServeFault (Option String)) : Prop where
  key : ∀ key, BlockKey.parseText selector = .ok key → answer =
    match l.resolve key with
    | .ok state => resultAnswer id (reads state)
    | .error _ => errorAnswer id .internal
  fault : ∀ kind, BlockKey.parseText selector = .error kind →
    answer = errorAnswer id (selectorError kind)

/-- The kinds of faults are told apart by their errors, and from a failing ledger. -/
theorem selectorError_inj {kind kind' : BlockKey.FaultKind} :
    selectorError kind = selectorError kind' ↔ kind = kind' := by
  cases kind <;> cases kind' <;> decide

theorem selectorError_ne_internal (kind : BlockKey.FaultKind) :
    selectorError kind ≠ .internal := by
  cases kind <;> decide

namespace FollowsKey

variable {l : Ledger} {history : List Call} {selector : String} {id : Json}
  {reads : Snapshot → Json} {answer : Except ServeFault (Option String)}

theorem result (follows : FollowsKey l selector id reads answer) {key : BlockKey} {state : Snapshot}
    (parsed : BlockKey.parseText selector = .ok key) (h : l.resolve key = .ok state) :
    answer = resultAnswer id (reads state) := by
  rw [follows.key key parsed, h]

/-- Which errors there are, and when. -/
theorem eq_errorAnswer_iff (follows : FollowsKey l selector id reads answer) (chained : Chained l)
    (counted : Counted history l) (e : Error) :
    answer = errorAnswer id e ↔ (e = .internal ∧ Unknown l selector) ∨
      ∃ kind, BlockKey.parseText selector = .error kind ∧ e = selectorError kind := by
  cases parsed : BlockKey.parseText selector with
  | error kind =>
    rw [follows.fault kind parsed, errorAnswer_inj]
    constructor
    · rintro rfl
      exact .inr ⟨kind, rfl, rfl⟩
    · rintro (⟨-, unknown⟩ | ⟨kind', same, rfl⟩)
      · rcases unknown with ⟨n, number, -⟩ | ⟨b, hash, -⟩
        · cases parsed.symm.trans number
        · cases parsed.symm.trans hash
      · rw [Except.error.inj same]
  | ok key =>
    rw [unknown_iff chained counted parsed, follows.key key parsed]
    cases resolved : l.resolve key with
    | ok state => simp [resultAnswer_ne_errorAnswer]
    | error fault => simp [errorAnswer_inj, eq_comm]

theorem eq_selectorError_iff (follows : FollowsKey l selector id reads answer)
    (chained : Chained l) (counted : Counted history l) (kind : BlockKey.FaultKind) :
    answer = errorAnswer id (selectorError kind) ↔
      BlockKey.parseText selector = .error kind := by
  rw [follows.eq_errorAnswer_iff chained counted]
  constructor
  · rintro (⟨internal, -⟩ | ⟨kind', parsed, same⟩)
    · exact absurd internal (selectorError_ne_internal kind)
    · rw [parsed, selectorError_inj.1 same]
  · exact fun parsed => .inr ⟨kind, parsed, rfl⟩

/-- An answer that follows the key is from the block that is selected. -/
theorem fromSelected (follows : FollowsKey l selector id reads answer) (chained : Chained l)
    (counted : Counted history l) : FromSelected l selector id reads answer := by
  have errors := follows.eq_errorAnswer_iff chained counted
  constructor
  case pending =>
    rintro rfl
    exact follows.result BlockKey.parseText_pending rfl
  case latest =>
    rintro rfl
    exact ⟨l.head, counted.head_block, follows.result BlockKey.parseText_latest rfl⟩
  case number =>
    intro n parsed within
    obtain ⟨block, listed, resolved⟩ := Ledger.resolve_number_of_le counted within
    exact ⟨block, listed, follows.result parsed resolved⟩
  case hash =>
    intro b parsed known
    obtain ⟨block, newest, resolved⟩ := Ledger.resolve_hash_of_mem chained known
    exact ⟨block, newest, follows.result parsed resolved⟩
  case error =>
    intro unselected
    cases parsed : BlockKey.parseText selector with
    | error kind => exact ⟨_, follows.fault kind parsed⟩
    | ok key =>
      have unknown : Unknown l selector := by
        by_contra known
        exact unselected (known_of_not_unknown parsed known)
      exact ⟨.internal, (errors _).2 (.inl ⟨rfl, unknown⟩)⟩
  case unsupported => exact follows.eq_selectorError_iff chained counted .unsupported
  case invalid => exact follows.eq_selectorError_iff chained counted .invalid
  case unknown =>
    rw [errors]
    constructor
    · rintro (⟨-, unknown⟩ | ⟨kind, -, same⟩)
      · exact unknown
      · exact absurd same.symm (selectorError_ne_internal kind)
    · exact fun unknown => .inl ⟨rfl, unknown⟩

end FollowsKey

/-! ## Answers over the wire -/

/-- A question with an id is answered from the block that its selector selects, for each ledger in
memory whose balances are not below zero. -/
theorem answers_from_selected (calls : List Call) (solvent : AllSolvent (Ledger.fresh.run calls))
    {q : Question} (wellFormed : q.WellFormed) (selector : String) {room : Json.Room} {body : Body}
    {v : Json} (spelt : body.Spells room.depth v) (bounded : body.Bounded room.depth)
    (asks : Asks v q.method.1) (params : carriedParams v = q.params selector)
    (owed : carriedId v ≠ .null) :
    ∃ reads, q.Reads reads ∧
      FromSelected (Ledger.fresh.run calls) selector (carriedId v) reads
        (handle room accountTable (Ledger.fresh.run calls).client body).value := by
  obtain ⟨reads, asked⟩ := Question.exists_reads wellFormed
  have chained := Ledger.chained_run calls
  refine ⟨reads, asked, FollowsKey.fromSelected ⟨?_, ?_⟩ chained (Ledger.counted_run calls)⟩
  · intro key parsed
    have ended := asked.value_of_key parsed fun state h => solvent.resolve chained h
    rw [← params] at ended
    cases resolved : (Ledger.fresh.run calls).resolve key with
    | ok state =>
      rw [resolved] at ended
      exact answer_of_reply spelt bounded asks q.find?_method owed ended
    | error fault =>
      rw [resolved] at ended
      exact answer_of_refusal spelt bounded asks q.find?_method owed ended (by decide)
  · intro kind parsed
    have ended := q.value_of_fault (Ledger.fresh.run calls).client parsed
    rw [← params] at ended
    have short : Decimal.digitCount (selectorError kind).code.natAbs ≤ Decimal.digitLimit := by
      cases kind <;> decide
    exact answer_of_refusal spelt bounded asks q.find?_method owed ended short

/-- A slot is written, sealed in block 1, and written anew. -/
def rewrittenSlot : List Call :=
  [.setAccount "abababababababababababababababababababab" ⟨100, [], 0⟩,
   .setStorage "abababababababababababababababababababab" "07" [1], .commit,
   .setStorage "abababababababababababababababababababab" "07" [2]]

/-- A request for the slot as of block 1. -/
def slotRequest : Json :=
  .object [("id", .int 1), ("method", .string "eth_getStorageAt"),
    ("params", .array [.string "0xabababababababababababababababababababab", .string "0x0007",
      .string "0x1"])]

theorem answers_from_selected_rewritten_slot :
    AllSolvent (Ledger.fresh.run rewrittenSlot) ∧
      (Question.slot "0xabababababababababababababababababababab" "0x0007").WellFormed ∧
      (Body.value slotRequest).Bounded Json.Room.thousand.depth ∧
      Asks slotRequest "eth_getStorageAt" ∧
      ∃ reads, (Question.slot "0xabababababababababababababababababababab" "0x0007").Reads reads ∧
        FromSelected (Ledger.fresh.run rewrittenSlot) "0x1" (.int 1) reads
          (handle .thousand accountTable (Ledger.fresh.run rewrittenSlot).client
            (.value slotRequest)).value := by
  have solvent : AllSolvent (Ledger.fresh.run rewrittenSlot) := by
    refine Ledger.allSolvent_run _ _ Ledger.allSolvent_fresh fun c mem => ?_
    simp only [rewrittenSlot, List.mem_cons, List.not_mem_nil, or_false] at mem
    obtain rfl | rfl | rfl | rfl := mem <;> simp [Ledger.KeepsSolvent]
  have wellFormed :
      (Question.slot "0xabababababababababababababababababababab" "0x0007").WellFormed :=
    ⟨⟨rfl, List.all_eq_true.1 rfl⟩, "0007".toList, rfl, by decide, rfl, List.all_eq_true.1 rfl⟩
  have spelt : (Body.value slotRequest).Spells Json.Room.thousand.depth slotRequest := rfl
  have bounded : (Body.value slotRequest).Bounded Json.Room.thousand.depth :=
    Json.fault?_eq_none_iff.1 (by decide)
  have asks : Asks slotRequest "eth_getStorageAt" := ⟨.inl rfl, rfl, by decide⟩
  have owed : carriedId slotRequest ≠ .null := by
    show Json.int 1 ≠ .null
    simp
  exact ⟨solvent, wellFormed, bounded, asks,
    answers_from_selected rewrittenSlot solvent wellFormed "0x1" spelt bounded asks rfl owed⟩

end LedgerGateway.Rpc
