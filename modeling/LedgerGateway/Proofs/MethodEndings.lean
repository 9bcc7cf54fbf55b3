import LedgerGateway.Proofs.SingleRequests
import LedgerGateway.Rpc.AccountMethods
import Mathlib.Data.List.Basic

/-!
# How the account methods end

A method that asks the ledger checks its parameters first, puts its query, and makes its reply of
what comes back. A failure of the query is hidden behind one error if it can be described; otherwise
the method ends as the attempt to describe it does. The making of the reply stands outside of that,
and it breaks down at a balance below zero.

* `accountMethod_value`, `getStorageAt_value` — the checks, then `endingOf` of the answer.
* `accountParams_eq_ok_iff`, `storageParams_eq_ok_iff` — which parameters pass the checks.
* `declines_accountParams`, `declines_storageParams` — what parameters are refused with.
* `regular_iff` — a method ends with null, a text or one of three errors, unless it has to write a
  balance below zero or the ledger fails in a way that is not hidden.
* `accountTable_plain` — with a ledger that fails in ordinary ways the methods are plain.
-/


namespace LedgerGateway

/-! ## Failures -/

/-- How a method ends behind a failure: with the error that hides it if it can be described, else
as the attempt to describe it does. -/
def QueryFailure.ending (failure : QueryFailure) : Rpc.MethodFault :=
  match failure.told with
  | .ok _ => .refused .internal
  | .error ending => ending

/-- The failure can be described, or the attempt to describe it breaks down. -/
inductive QueryFailure.Ordinary (failure : QueryFailure) : Prop where
  | told (description : String) : failure.told = .ok description → Ordinary failure
  | crashed (c : Rpc.Crash) : failure.told = .error (.crashed c) → Ordinary failure

/-- The queries of the ledger fail in ordinary ways only. -/
structure LedgerClient.Ordinary (client : LedgerClient) : Prop where
  account : ∀ address key failure, client.getAccount address key = .error failure →
    failure.Ordinary
  storage : ∀ address position key failure, client.getStorage address position key = .error failure →
    failure.Ordinary

/-- The ledger in memory fails in no other way than with a description. -/
theorem Ledger.ordinary_client (l : Ledger) : l.client.Ordinary := by
  have described {α : Type} {answer : Except String α} {failure : QueryFailure}
      (failed : (answer.mapError .other : Except QueryFailure α) = .error failure) :
      failure.Ordinary := by
    cases answer with
    | ok a => cases failed
    | error fault =>
      cases failed
      exact .told _ rfl
  exact ⟨fun _ _ _ => described, fun _ _ _ _ => described⟩

end LedgerGateway

namespace LedgerGateway.Rpc

/-! ## Parameters -/

theorem mapM_asText?_eq_some {items : List Json} {texts : List String}
    (h : items.mapM asText? = some texts) : items = texts.map .string := by
  induction items generalizing texts with
  | nil =>
    obtain rfl : [] = texts := by simpa using h
    rfl
  | cons item rest ih =>
    rw [List.mapM_cons] at h
    cases item with
    | string s =>
      cases others : rest.mapM asText? with
      | none => simp [asText?, others] at h
      | some found =>
        obtain rfl : s :: found = texts := by simpa [asText?, others] using h
        rw [List.map_cons, ih others]
    | _ => simp [asText?] at h

/-- The parameters are as many texts as they should be, or they are refused with the usage. -/
theorem textParams_cases (params : Json) (count : Nat) (usage : String) :
    (∃ texts : List String, texts.length = count ∧ params = .array (texts.map .string)) ∨
      textParams params count usage = .error (.invalidParams usage) := by
  unfold textParams
  split
  · next items =>
    split
    · next length =>
      split
      · next texts all =>
        obtain rfl := mapM_asText?_eq_some all
        exact .inl ⟨texts, by simpa using length, rfl⟩
      · exact .inr rfl
    · exact .inr rfl
  · exact .inr rfl

/-- The error for a selector that selects no block. -/
def selectorError : BlockKey.FaultKind → Error
  | .unsupported => .notImplemented
  | .invalid => .invalidParams "Failed to parse block number"

theorem checkBlockKey_of_ok {selector : String} {key : BlockKey}
    (h : BlockKey.parseText selector = .ok key) : checkBlockKey selector = .ok key := by
  rw [checkBlockKey, h]

theorem checkBlockKey_of_error {selector : String} {kind : BlockKey.FaultKind}
    (h : BlockKey.parseText selector = .error kind) :
    checkBlockKey selector = .error (selectorError kind) := by
  rw [checkBlockKey, h]
  cases kind <;> rfl

section Texts

variable (address position block : String)

theorem accountParams_texts :
    accountParams (.array [.string address, .string block]) =
      (checkBlockKey block).bind fun key =>
        (checkAddress address).map fun address => (address, key) := by
  have texts : textParams (.array [.string address, .string block]) 2 accountUsage =
      .ok [address, block] := rfl
  simp only [accountParams, texts]
  cases checkBlockKey block with
  | error e => rfl
  | ok key => cases checkAddress address <;> rfl

theorem storageParams_texts :
    storageParams (.array [.string address, .string position, .string block]) =
      (checkBlockKey block).bind fun key =>
        (checkAddress address).bind fun address =>
          (checkPosition position).map fun position => (address, position, key) := by
  have texts : textParams (.array [.string address, .string position, .string block]) 3
      storageUsage = .ok [address, position, block] := rfl
  simp only [storageParams, texts]
  cases checkBlockKey block with
  | error e => rfl
  | ok key =>
    cases checkAddress address with
    | error e => rfl
    | ok address => cases checkPosition position <;> rfl

end Texts

theorem accountParams_cases (params : Json) :
    (∃ address block, params = .array [.string address, .string block]) ∨
      accountParams params = .error (.invalidParams accountUsage) := by
  obtain ⟨texts, length, rfl⟩ | refused := textParams_cases params 2 accountUsage
  · obtain ⟨address, block, rfl⟩ := List.length_eq_two.1 length
    exact .inl ⟨address, block, rfl⟩
  · exact .inr (by rw [accountParams, refused])

theorem storageParams_cases (params : Json) :
    (∃ address position block,
      params = .array [.string address, .string position, .string block]) ∨
      storageParams params = .error (.invalidParams storageUsage) := by
  obtain ⟨texts, length, rfl⟩ | refused := textParams_cases params 3 storageUsage
  · obtain ⟨address, position, block, rfl⟩ := List.length_eq_three.1 length
    exact .inl ⟨address, position, block, rfl⟩
  · exact .inr (by rw [storageParams, refused])

/-- The parameters ask for an account: two texts, of which the second selects a block and the first
has the length of an address. The ledger is asked for the rest of the first behind its mark. -/
def AskAccount (params : Json) (address : String) (key : BlockKey) : Prop :=
  ∃ text block, params = .array [.string text, .string block] ∧
    BlockKey.parseText block = .ok key ∧ text.length = 42 ∧ address = withoutMark text

theorem accountParams_eq_ok_iff {params : Json} {address : String} {key : BlockKey} :
    accountParams params = .ok (address, key) ↔ AskAccount params address key := by
  constructor
  · intro h
    obtain ⟨text, block, rfl⟩ | refused := accountParams_cases params
    · rw [accountParams_texts] at h
      cases parsed : BlockKey.parseText block with
      | error kind =>
        rw [checkBlockKey_of_error parsed] at h
        cases h
      | ok key' =>
        rw [checkBlockKey_of_ok parsed] at h
        by_cases length : text.length = 42
        · simp only [checkAddress, if_pos length] at h
          cases h
          exact ⟨text, block, rfl, parsed, length, rfl⟩
        · simp only [checkAddress, if_neg length] at h
          cases h
    · rw [refused] at h
      cases h
  · rintro ⟨text, block, rfl, parsed, length, rfl⟩
    rw [accountParams_texts, checkBlockKey_of_ok parsed, checkAddress, if_pos length]
    rfl

/-- The parameters ask for a slot: three texts, of which the last selects a block and the others
have the lengths of an address and of a position. -/
def AskSlot (params : Json) (address position : String) (key : BlockKey) : Prop :=
  ∃ text slot block, params = .array [.string text, .string slot, .string block] ∧
    BlockKey.parseText block = .ok key ∧ text.length = 42 ∧ address = withoutMark text ∧
    4 ≤ slot.length ∧ slot.length % 2 = 0 ∧ position = withoutMark slot

theorem storageParams_eq_ok_iff {params : Json} {address position : String} {key : BlockKey} :
    storageParams params = .ok (address, position, key) ↔ AskSlot params address position key := by
  constructor
  · intro h
    obtain ⟨text, slot, block, rfl⟩ | refused := storageParams_cases params
    · rw [storageParams_texts] at h
      cases parsed : BlockKey.parseText block with
      | error kind =>
        rw [checkBlockKey_of_error parsed] at h
        cases h
      | ok key' =>
        rw [checkBlockKey_of_ok parsed] at h
        by_cases length : text.length = 42
        · by_cases even : 4 ≤ slot.length ∧ slot.length % 2 = 0
          · simp only [checkAddress, if_pos length, checkPosition, if_pos even] at h
            cases h
            exact ⟨text, slot, block, rfl, parsed, length, rfl, even.1, even.2, rfl⟩
          · simp only [checkAddress, if_pos length, checkPosition, if_neg even] at h
            cases h
        · simp only [checkAddress, if_neg length] at h
          cases h
    · rw [refused] at h
      cases h
  · rintro ⟨text, slot, block, rfl, parsed, length, rfl, four, even, rfl⟩
    rw [storageParams_texts, checkBlockKey_of_ok parsed, checkAddress, if_pos length, checkPosition,
      if_pos ⟨four, even⟩]
    rfl

/-! ## What parameters are refused with -/

/-- An error that parameters are refused with. -/
inductive Declined : Error → Prop where
  | invalidParams (message : String) : Declined (.invalidParams message)
  | notImplemented : Declined .notImplemented

/-- The check fails with nothing but such an error. -/
def Declines {α : Type} (check : Except Error α) : Prop := ∀ e, check = .error e → Declined e

section Checks

variable {α β : Type}

theorem declines_ok (a : α) : Declines (.ok a) := by
  intro e h
  cases h

theorem Declined.declines {e : Error} (h : Declined e) : Declines (.error e : Except Error α) := by
  intro e' same
  cases same
  exact h

/-- One check after another fails as either does. -/
theorem Declines.bind {check : Except Error α} {next : α → Except Error β} (h : Declines check)
    (h' : ∀ a, Declines (next a)) : Declines (check.bind next) := by
  cases check with
  | error e => exact (h e rfl).declines
  | ok a => exact h' a

theorem Declines.map {check : Except Error α} (h : Declines check) (f : α → β) :
    Declines (check.map f) := by
  cases check with
  | error e => exact (h e rfl).declines
  | ok a => exact declines_ok (f a)

end Checks

theorem declines_checkBlockKey (selector : String) : Declines (checkBlockKey selector) := by
  cases parsed : BlockKey.parseText selector with
  | ok key =>
    rw [checkBlockKey_of_ok parsed]
    exact declines_ok key
  | error kind =>
    rw [checkBlockKey_of_error parsed]
    cases kind with
    | unsupported => exact Declined.notImplemented.declines
    | invalid => exact (Declined.invalidParams _).declines

theorem declines_checkAddress (address : String) : Declines (checkAddress address) := by
  unfold checkAddress
  split
  · exact declines_ok _
  · exact (Declined.invalidParams _).declines

theorem declines_checkPosition (position : String) : Declines (checkPosition position) := by
  unfold checkPosition
  split
  · exact declines_ok _
  · exact (Declined.invalidParams _).declines

theorem declines_accountParams (params : Json) : Declines (accountParams params) := by
  obtain ⟨address, block, rfl⟩ | refused := accountParams_cases params
  · rw [accountParams_texts]
    exact (declines_checkBlockKey _).bind fun key => (declines_checkAddress address).map _
  · rw [refused]
    exact (Declined.invalidParams _).declines

theorem declines_storageParams (params : Json) : Declines (storageParams params) := by
  obtain ⟨address, position, block, rfl⟩ | refused := storageParams_cases params
  · rw [storageParams_texts]
    exact (declines_checkBlockKey _).bind fun key =>
      (declines_checkAddress address).bind fun _ => (declines_checkPosition position).map _
  · rw [refused]
    exact (Declined.invalidParams _).declines

/-! ## Endings -/

/-- How a method ends that the ledger gave an answer to. -/
def endingOf {α : Type} (reply : α → Except MethodFault Reply) :
    Except QueryFailure (Option α) → Except MethodFault Reply
  | .ok (some a) => reply a
  | .ok none => .ok (.value .null)
  | .error failure => .error failure.ending

theorem replyTo_value {α : Type} (name : String) (answer : Except QueryFailure (Option α))
    (reply : α → Except MethodFault Reply) :
    (replyTo name answer reply).value = endingOf reply answer := by
  rcases answer with failure | _ | a
  · rw [replyTo, endingOf, QueryFailure.ending]
    cases failure.told <;> rfl
  · rfl
  · rfl

theorem accountMethod_value (name : String) (part : Account → Except MethodFault Reply)
    (params : Json) (client : LedgerClient) :
    (accountMethod name part params client).value =
      match accountParams params with
      | .error e => .error (.refused e)
      | .ok (address, key) => endingOf part (client.getAccount address key) := by
  simp only [accountMethod, Traced.value_bind]
  cases accountParams params with
  | error e => rfl
  | ok asked => exact replyTo_value name _ part

theorem getStorageAt_value (params : Json) (client : LedgerClient) :
    (getStorageAt params client).value =
      match storageParams params with
      | .error e => .error (.refused e)
      | .ok (address, position, key) =>
        endingOf (fun v => .ok (dataReply v)) (client.getStorage address position key) := by
  simp only [getStorageAt, Traced.value_bind]
  cases storageParams params with
  | error e => rfl
  | ok asked => exact replyTo_value _ _ _

/-- A method ends regularly with null or a text, or with one of three errors: the parameters are
invalid, the gateway does not offer what was asked, or the ledger failed. -/
inductive Regular : Except MethodFault Reply → Prop where
  | null : Regular (.ok (.value .null))
  | text (s : String) : Regular (.ok (.value (.string s)))
  | invalidParams (message : String) : Regular (.error (.refused ⟨-32602, message⟩))
  | notImplemented : Regular (.error (.refused ⟨-32004, "Not implemented"⟩))
  | internal : Regular (.error (.refused ⟨-32603, "Internal error"⟩))

theorem Declined.regular {e : Error} (h : Declined e) : Regular (.error (.refused e)) := by
  cases h with
  | invalidParams message => exact .invalidParams message
  | notImplemented => exact .notImplemented

/-- What the ledger answers is passed on regularly if the reply made of it is regular, and a failure
if it is hidden. -/
theorem regular_endingOf_iff {α : Type} {reply : α → Except MethodFault Reply}
    {answer : Except QueryFailure (Option α)} :
    Regular (endingOf reply answer) ↔
      (∀ a, answer = .ok (some a) → Regular (reply a)) ∧
        ∀ failure, answer = .error failure → Regular (.error failure.ending) := by
  rcases answer with failure | _ | a
  · simp [endingOf]
  · simpa [endingOf] using Regular.null
  · simp [endingOf]

theorem regular_data (bytes : Hex.Bytes) : Regular (.ok (dataReply bytes)) := .text _

/-- A balance is written unless it is below zero. -/
theorem regular_balanceReply_iff {account : Account} :
    Regular (balanceReply account) ↔ 0 ≤ account.balance := by
  obtain ⟨balance, code, nonce⟩ := account
  cases balance with
  | ofNat n => exact ⟨fun _ => Int.natCast_nonneg n, fun _ => .text _⟩
  | negSucc n =>
    constructor
    · intro h
      cases h
    · intro h
      exact absurd h (Int.not_le.2 (Int.negSucc_lt_zero n))

theorem regular_accountMethod_iff {name : String} {part : Account → Except MethodFault Reply}
    {params : Json} {client : LedgerClient} :
    Regular (accountMethod name part params client).value ↔
      ∀ address key, AskAccount params address key →
        (∀ account, client.getAccount address key = .ok (some account) → Regular (part account)) ∧
          ∀ failure, client.getAccount address key = .error failure →
            Regular (.error failure.ending) := by
  rw [accountMethod_value]
  simp only [← accountParams_eq_ok_iff]
  cases asked : accountParams params with
  | error e => exact iff_of_true (declines_accountParams params e asked).regular (by simp)
  | ok pair =>
    obtain ⟨address, key⟩ := pair
    refine regular_endingOf_iff.trans ⟨?_, fun h => h address key rfl⟩
    rintro h address' key' same
    cases same
    exact h

theorem regular_getStorageAt_iff {params : Json} {client : LedgerClient} :
    Regular (getStorageAt params client).value ↔
      ∀ address position key, AskSlot params address position key →
        ∀ failure, client.getStorage address position key = .error failure →
          Regular (.error failure.ending) := by
  rw [getStorageAt_value]
  simp only [← storageParams_eq_ok_iff]
  cases asked : storageParams params with
  | error e => exact iff_of_true (declines_storageParams params e asked).regular (by simp)
  | ok triple =>
    obtain ⟨address, position, key⟩ := triple
    refine regular_endingOf_iff.trans ⟨?_, fun h => ?_⟩
    · rintro ⟨-, h⟩ address' position' key' same
      cases same
      exact h
    · exact ⟨fun v _ => regular_data v, h address position key rfl⟩

/-- The ledger answers a question for a balance with an account whose balance is below zero. -/
def Overdrawn (name : String) (params : Json) (client : LedgerClient) : Prop :=
  name = "eth_getBalance" ∧ ∃ address key account, AskAccount params address key ∧
    client.getAccount address key = .ok (some account) ∧ account.balance < 0

/-- A method asks the ledger, which fails. -/
inductive FailsWith (client : LedgerClient) (name : String) (params : Json)
    (failure : QueryFailure) : Prop where
  | account {address key} : name = "eth_getBalance" ∨ name = "eth_getCode" →
      AskAccount params address key → client.getAccount address key = .error failure →
      FailsWith client name params failure
  | slot {address position key} : name = "eth_getStorageAt" →
      AskSlot params address position key →
      client.getStorage address position key = .error failure →
      FailsWith client name params failure

/-- The ledger fails, and to describe the failure ends in none of the regular ways. -/
def Unhidden (name : String) (params : Json) (client : LedgerClient) : Prop :=
  ∃ failure, FailsWith client name params failure ∧ ¬ Regular (.error failure.ending)

/-- **Which endings leave a method.** Whatever the parameters are and whatever the ledger answers or
fails with, an account method ends with null, a text or one of the three errors, unless it is asked
for a balance and the ledger's is below zero, or the ledger fails in a way that is not hidden. -/
theorem regular_iff {name : String} {m : Method} (h : (name, m) ∈ accountMethods) (params : Json)
    (client : LedgerClient) :
    Regular (m params client).value ↔
      ¬ Overdrawn name params client ∧ ¬ Unhidden name params client := by
  simp only [accountMethods, List.mem_cons, Prod.mk.injEq, List.not_mem_nil, or_false] at h
  obtain ⟨rfl, rfl⟩ | ⟨rfl, rfl⟩ | ⟨rfl, rfl⟩ | ⟨rfl, rfl⟩ | ⟨rfl, rfl⟩ | ⟨rfl, rfl⟩ := h
  case inl =>
    refine regular_accountMethod_iff.trans ⟨fun h => ⟨?_, ?_⟩, ?_⟩
    · rintro ⟨-, address, key, account, asked, answered, below⟩
      have := regular_balanceReply_iff.1 ((h address key asked).1 account answered)
      omega
    · rintro ⟨failure, ⟨-, asked, failed⟩ | ⟨other, -⟩, irregular⟩
      · exact irregular ((h _ _ asked).2 failure failed)
      · exact absurd other (by decide)
    · rintro ⟨covered, hidden⟩ address key asked
      refine ⟨fun account answered => ?_, fun failure failed => ?_⟩
      · refine regular_balanceReply_iff.2 (Int.not_lt.1 fun below => ?_)
        exact covered ⟨rfl, address, key, account, asked, answered, below⟩
      · exact not_not.1 fun irregular =>
          hidden ⟨failure, .account (.inl rfl) asked failed, irregular⟩
  case inr.inl =>
    refine regular_getStorageAt_iff.trans ⟨fun h => ⟨fun other => absurd other.1 (by decide), ?_⟩, ?_⟩
    · rintro ⟨failure, ⟨other | other, -⟩ | ⟨-, asked, failed⟩, irregular⟩
      · exact absurd other (by decide)
      · exact absurd other (by decide)
      · exact irregular (h _ _ _ asked failure failed)
    · rintro ⟨-, hidden⟩ address position key asked failure failed
      exact not_not.1 fun irregular => hidden ⟨failure, .slot rfl asked failed, irregular⟩
  case inr.inr.inl =>
    refine regular_accountMethod_iff.trans ⟨fun h => ⟨fun other => absurd other.1 (by decide), ?_⟩, ?_⟩
    · rintro ⟨failure, ⟨-, asked, failed⟩ | ⟨other, -⟩, irregular⟩
      · exact irregular ((h _ _ asked).2 failure failed)
      · exact absurd other (by decide)
    · rintro ⟨-, hidden⟩ address key asked
      refine ⟨fun account _ => regular_data account.code, fun failure failed => ?_⟩
      exact not_not.1 fun irregular =>
        hidden ⟨failure, .account (.inr rfl) asked failed, irregular⟩
  all_goals
    refine iff_of_true .notImplemented ⟨fun other => absurd other.1 (by decide), ?_⟩
    rintro ⟨failure, ⟨other | other, -⟩ | ⟨other, -⟩, -⟩ <;> exact absurd other (by decide)

/-- The parameters of a question about the newest state of an account. -/
def newestParams : Json :=
  .array [.string "0xabababababababababababababababababababab", .string "latest"]

/-- A ledger that fails with an error of the wire which is none of the three. -/
def talkativeLedger : LedgerClient where
  getAccount _ _ := .error (.rpc ⟨-32000, "no route to 10.0.0.7"⟩)
  getStorage _ _ _ := .error (.rpc ⟨-32000, "no route to 10.0.0.7"⟩)

theorem regular_talkative_ledger :
    ("eth_getBalance", getBalance) ∈ accountMethods ∧
      ¬ Overdrawn "eth_getBalance" newestParams talkativeLedger ∧
      ¬ Unhidden "eth_getBalance" newestParams talkativeLedger ∧
      Regular (getBalance newestParams talkativeLedger).value := by
  have listed : ("eth_getBalance", getBalance) ∈ accountMethods := by simp [accountMethods]
  have covered : ¬ Overdrawn "eth_getBalance" newestParams talkativeLedger := by
    rintro ⟨-, address, key, account, -, answered, -⟩
    cases answered
  have hidden : ¬ Unhidden "eth_getBalance" newestParams talkativeLedger := by
    rintro ⟨failure, ⟨-, -, failed⟩ | ⟨other, -⟩, irregular⟩
    · cases failed
      exact irregular .internal
    · exact absurd other (by decide)
  exact ⟨listed, covered, hidden,
    (regular_iff listed newestParams talkativeLedger).2 ⟨covered, hidden⟩⟩

/-- A ledger in which every account is one below zero. -/
def indebtedLedger : LedgerClient where
  getAccount _ _ := .ok (some ⟨-1, [], 0⟩)
  getStorage _ _ _ := .ok none

/-- A balance below zero breaks the method down. -/
theorem not_regular_indebted_ledger : ¬ Regular (getBalance newestParams indebtedLedger).value := by
  have crashed : (getBalance newestParams indebtedLedger).value =
      .error (.crashed (.negativeQuantity ⟨-1⟩)) := by
    have asked : AskAccount newestParams "abababababababababababababababababababab" .latest :=
      ⟨_, _, rfl, rfl, rfl, rfl⟩
    rw [getBalance, accountMethod_value, accountParams_eq_ok_iff.2 asked]
    rfl
  rw [crashed]
  intro h
  cases h

/-! ## The table -/

/-- The table of the account methods. -/
def accountTable : MethodTable := (MethodTable.registerAll [] accountMethods).value

/-- Registering keeps the methods in their order, so what is found is one of the list. -/
theorem mem_of_find?_accountTable {name : String} {m : Method}
    (found : accountTable.find? name = some m) : (name, m) ∈ accountMethods := by
  have listed : accountMethods.lookup name = some m := found
  exact Association.mem_of_lookup listed

/-- The reply is a text or null. -/
inductive Reply.Textual : Reply → Prop where
  | null : Textual (.value .null)
  | text (s : String) : Textual (.value (.string s))

theorem textual_endingOf {α : Type} {part : α → Except MethodFault Reply}
    (h : ∀ a reply, part a = .ok reply → reply.Textual)
    {answer : Except QueryFailure (Option α)} {reply : Reply}
    (replied : endingOf part answer = .ok reply) : reply.Textual := by
  rcases answer with failure | _ | a
  · cases replied
  · cases replied
    exact .null
  · exact h a reply replied

theorem textual_accountMethod (name : String) {part : Account → Except MethodFault Reply}
    (h : ∀ account reply, part account = .ok reply → reply.Textual) {params : Json}
    {client : LedgerClient} {reply : Reply}
    (replied : (accountMethod name part params client).value = .ok reply) : reply.Textual := by
  rw [accountMethod_value] at replied
  split at replied
  · cases replied
  · exact textual_endingOf h replied

theorem textual_data {bytes : Hex.Bytes} {reply : Reply}
    (replied : Except.ok (dataReply bytes) = (.ok reply : Except MethodFault Reply)) :
    reply.Textual := by
  rw [← Except.ok.inj replied]
  exact .text _

theorem textual_getStorageAt {params : Json} {client : LedgerClient} {reply : Reply}
    (replied : (getStorageAt params client).value = .ok reply) : reply.Textual := by
  rw [getStorageAt_value] at replied
  split at replied
  · cases replied
  · exact textual_endingOf (fun _ _ => textual_data) replied

theorem textual_balanceReply (account : Account) (reply : Reply)
    (replied : balanceReply account = .ok reply) : reply.Textual := by
  unfold balanceReply at replied
  split at replied
  · rw [← Except.ok.inj replied]
    exact .text _
  · cases replied

/-- The account methods reply with a text or null, whatever they are asked. -/
theorem accountTable_textual {name : String} {m : Method} (found : accountTable.find? name = some m)
    {params : Json} {client : LedgerClient} {reply : Reply}
    (replied : (m params client).value = .ok reply) : reply.Textual := by
  have mem := mem_of_find?_accountTable found
  simp only [accountMethods, List.mem_cons, Prod.mk.injEq, List.not_mem_nil, or_false] at mem
  obtain ⟨-, rfl⟩ | ⟨-, rfl⟩ | ⟨-, rfl⟩ | ⟨-, rfl⟩ | ⟨-, rfl⟩ | ⟨-, rfl⟩ := mem
  · exact textual_accountMethod _ textual_balanceReply replied
  · exact textual_getStorageAt replied
  · exact textual_accountMethod _ (fun _ _ => textual_data) replied
  all_goals cases replied

/-! ## Ledgers that fail in ordinary ways -/

/-- The ending is regular, or the method broke down. -/
inductive Handled : Except MethodFault Reply → Prop where
  | regular {ending} : Regular ending → Handled ending
  | crashed (c : Crash) : Handled (.error (.crashed c))

theorem handled_of_ordinary {failure : QueryFailure} (h : failure.Ordinary) :
    Handled (.error failure.ending) := by
  rw [QueryFailure.ending]
  cases h with
  | told description told =>
    rw [told]
    exact .regular .internal
  | crashed c crashed =>
    rw [crashed]
    exact .crashed c

theorem handled_endingOf {α : Type} {part : α → Except MethodFault Reply}
    (h : ∀ a, Handled (part a)) {answer : Except QueryFailure (Option α)}
    (ordinary : ∀ failure, answer = .error failure → failure.Ordinary) :
    Handled (endingOf part answer) := by
  rcases answer with failure | _ | a
  · exact handled_of_ordinary (ordinary failure rfl)
  · exact .regular .null
  · exact h a

theorem handled_balanceReply (account : Account) : Handled (balanceReply account) := by
  unfold balanceReply
  split
  · exact .regular (.text _)
  · exact .crashed _

variable {client : LedgerClient}

theorem handled_accountMethod (ordinary : client.Ordinary) (name : String)
    {part : Account → Except MethodFault Reply} (h : ∀ account, Handled (part account))
    (params : Json) : Handled (accountMethod name part params client).value := by
  rw [accountMethod_value]
  split
  · next e refused => exact .regular (declines_accountParams params e refused).regular
  · next address key _ => exact handled_endingOf h (ordinary.account address key)

theorem handled_getStorageAt (ordinary : client.Ordinary) (params : Json) :
    Handled (getStorageAt params client).value := by
  rw [getStorageAt_value]
  split
  · next e refused => exact .regular (declines_storageParams params e refused).regular
  · next address position key _ =>
    exact handled_endingOf (fun v => .regular (regular_data v)) (ordinary.storage _ _ _)

/-- With a ledger that fails in ordinary ways an account method ends regularly or breaks down. -/
theorem handled_accountTable (ordinary : client.Ordinary) {name : String} {m : Method}
    (found : accountTable.find? name = some m) (params : Json) :
    Handled (m params client).value := by
  have mem := mem_of_find?_accountTable found
  simp only [accountMethods, List.mem_cons, Prod.mk.injEq, List.not_mem_nil, or_false] at mem
  obtain ⟨-, rfl⟩ | ⟨-, rfl⟩ | ⟨-, rfl⟩ | ⟨-, rfl⟩ | ⟨-, rfl⟩ | ⟨-, rfl⟩ := mem
  · exact handled_accountMethod ordinary _ handled_balanceReply params
  · exact handled_getStorageAt ordinary params
  · exact handled_accountMethod ordinary _ (fun account => .regular (regular_data account.code))
      params
  all_goals exact .regular .notImplemented

theorem fits_error {e : Error} (short : Decimal.digitCount e.code.natAbs ≤ Decimal.digitLimit)
    {depth : Nat} : e.toJson.Fits Decimal.digitLimit (depth + 1) := by
  refine .object fun m mem => ?_
  simp only [List.mem_cons, List.not_mem_nil, or_false] at mem
  obtain rfl | rfl := mem
  · exact .int short
  · exact .string

/-- What is told of such an ending can be written in an object inside an object. -/
theorem Handled.endsIn {ending : Except MethodFault Reply} (h : Handled ending) :
    ∃ member, EndsIn ending member ∧ member.2.Fits Decimal.digitLimit 1 := by
  cases h with
  | crashed c => exact ⟨_, .crashed c, fits_error (by decide)⟩
  | regular regular =>
    cases regular with
    | null => exact ⟨_, .value _, .null⟩
    | text s => exact ⟨_, .value _, .string⟩
    | invalidParams message =>
      refine ⟨_, .refused _, fits_error ?_⟩
      show Decimal.digitCount 32602 ≤ Decimal.digitLimit
      decide
    | notImplemented => exact ⟨_, .refused _, fits_error (by decide)⟩
    | internal => exact ⟨_, .refused _, fits_error (by decide)⟩

/-- With a ledger that fails in ordinary ways the account methods are plain. -/
theorem accountTable_plain (ordinary : client.Ordinary) : accountTable.Plain client := by
  intro name m found params
  obtain ⟨member, ends, -⟩ := (handled_accountTable ordinary found params).endsIn
  exact ⟨member, ends⟩

end LedgerGateway.Rpc
