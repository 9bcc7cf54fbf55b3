import LedgerGateway.Proofs.BlockSelection
import LedgerGateway.Proofs.HiddenFailures

/-!
# Checks in front of the ledger

The methods that ask the ledger check their parameters first: the shape, the selector of the block,
the address, and the position of a slot, in this order. The first check that fails gives the error
of the method, which leaves the ledger alone. Behind the last check there is one query, and what
becomes of the method is settled by its answer.

* `Finds` — what the checks of a method find in its parameters, an error or the query.
* `finds_iff` — this is what the method computes from them, so they find one thing always.
* `Follows` — a method that does as its checks find, and what it writes to the log.
* `checks_decide` — the three methods follow their checks, for all parameters and all ledgers.
-/

namespace LedgerGateway.Rpc

/-! ## What the checks find -/

namespace Question

/-- The kinds of questions, one for each method that asks the ledger. -/
inductive Kind where
  | balance
  | code
  | slot

def kind : Question → Kind
  | .balance _ => .balance
  | .code _ => .code
  | .slot _ _ => .slot

def address : Question → String
  | .balance address => address
  | .code address => address
  | .slot address _ => address

def position? : Question → Option String
  | .balance _ => none
  | .code _ => none
  | .slot _ position => some position

/-- The query to the ledger, with the address and the position behind their first two
characters. -/
def query (key : BlockKey) : Question → LedgerQuery
  | .balance address => .account (withoutMark address) key
  | .code address => .account (withoutMark address) key
  | .slot address position => .storage (withoutMark address) (withoutMark position) key

namespace Kind

/-- The method for the questions of a kind. -/
def method : Kind → String × Method
  | .balance => ("eth_getBalance", getBalance)
  | .code => ("eth_getCode", getCode)
  | .slot => ("eth_getStorageAt", getStorageAt)

/-- How many parameters it takes. -/
def count : Kind → Nat
  | .balance => 2
  | .code => 2
  | .slot => 3

/-- What it answers if the parameters have another shape. -/
def usage : Kind → String
  | .balance => accountUsage
  | .code => accountUsage
  | .slot => storageUsage

/-- The parameters are a list of exactly as many texts. -/
def Shaped (k : Kind) (params : Json) : Prop :=
  ∃ texts : List String, texts.length = k.count ∧ params = .array (texts.map .string)

end Kind

/-- What is found in the texts of a question and of the selector behind it. Each case says that the
checks in front of it have passed. -/
inductive Checked (q : Question) (selector : String) : Except Error LedgerQuery → Prop where
  | unsupported : BlockKey.parseText selector = .error .unsupported →
      Checked q selector (.error ⟨-32004, "Not implemented"⟩)
  | invalid : BlockKey.parseText selector = .error .invalid →
      Checked q selector (.error ⟨-32602, "Failed to parse block number"⟩)
  | address {key} : BlockKey.parseText selector = .ok key → q.address.length ≠ 42 →
      Checked q selector
        (.error ⟨-32602, s!"Invalid address length: {q.address.length} != 42"⟩)
  | position {key position} : BlockKey.parseText selector = .ok key →
      q.address.length = 42 → q.position? = some position →
      position.length < 4 ∨ position.length % 2 = 1 →
      Checked q selector (.error ⟨-32602, s!"Invalid storage position: {position}"⟩)
  | passed {key} : BlockKey.parseText selector = .ok key → q.address.length = 42 →
      (∀ position, q.position? = some position → 4 ≤ position.length ∧ position.length % 2 = 0) →
      Checked q selector (.ok (q.query key))

/-- What the checks of a method find in its parameters: an error, or the query to the ledger. -/
inductive Finds (k : Kind) (params : Json) : Except Error LedgerQuery → Prop where
  | shape : ¬ k.Shaped params → Finds k params (.error ⟨-32602, k.usage⟩)
  | texts {q : Question} {selector : String} {found} : q.kind = k → params = q.params selector →
      q.Checked selector found → Finds k params found

/-! ## How the methods find it -/

/-- Parameters of the right shape are the texts of a question and of a selector. -/
theorem shaped_iff {k : Kind} {params : Json} :
    k.Shaped params ↔ ∃ (q : Question) (selector : String), q.kind = k ∧
      params = q.params selector := by
  constructor
  · rintro ⟨texts, length, rfl⟩
    cases k with
    | balance =>
      obtain ⟨address, selector, rfl⟩ := List.length_eq_two.1 length
      exact ⟨.balance address, selector, rfl, rfl⟩
    | code =>
      obtain ⟨address, selector, rfl⟩ := List.length_eq_two.1 length
      exact ⟨.code address, selector, rfl, rfl⟩
    | slot =>
      obtain ⟨address, position, selector, rfl⟩ := List.length_eq_three.1 length
      exact ⟨.slot address position, selector, rfl, rfl⟩
  · rintro ⟨q, selector, rfl, rfl⟩
    cases q with
    | balance address => exact ⟨[address, selector], rfl, rfl⟩
    | code address => exact ⟨[address, selector], rfl, rfl⟩
    | slot address position => exact ⟨[address, position, selector], rfl, rfl⟩

/-- The query that a method makes of its parameters, or the error that it refuses them with. -/
def Kind.check (params : Json) : Kind → Except Error LedgerQuery
  | .balance => (accountParams params).map fun (address, key) => .account address key
  | .code => (accountParams params).map fun (address, key) => .account address key
  | .slot => (storageParams params).map fun (address, position, key) =>
      .storage address position key

theorem check_of_not_shaped {k : Kind} {params : Json} (h : ¬ k.Shaped params) :
    k.check params = .error ⟨-32602, k.usage⟩ := by
  have account (other : ∀ address block : String,
      params ≠ .array [.string address, .string block]) :
      accountParams params = .error (.invalidParams accountUsage) :=
    (accountParams_cases params).resolve_left fun ⟨address, block, eq⟩ => other address block eq
  rw [shaped_iff] at h
  cases k with
  | balance =>
    rw [Kind.check, account fun address block eq => h ⟨.balance address, block, rfl, eq⟩]
    rfl
  | code =>
    rw [Kind.check, account fun address block eq => h ⟨.code address, block, rfl, eq⟩]
    rfl
  | slot =>
    have refused := (storageParams_cases params).resolve_left fun ⟨address, position, block, eq⟩ =>
      h ⟨.slot address position, block, rfl, eq⟩
    rw [Kind.check, refused]
    rfl

/-- A check hands on what stands behind the mark. -/
theorem eq_withoutMark_of_checkAddress {address bare : String}
    (h : checkAddress address = .ok bare) : bare = withoutMark address := by
  unfold checkAddress at h
  split at h
  · exact (Except.ok.inj h).symm
  · cases h

theorem eq_withoutMark_of_checkPosition {position bare : String}
    (h : checkPosition position = .ok bare) : bare = withoutMark position := by
  unfold checkPosition at h
  split at h
  · exact (Except.ok.inj h).symm
  · cases h

section Texts

variable (address position block : String)

theorem accountQuery_texts :
    (accountParams (.array [.string address, .string block])).map
        (fun (address, key) => LedgerQuery.account address key) =
      (checkBlockKey block).bind fun key =>
        (checkAddress address).bind fun _ => .ok (.account (withoutMark address) key) := by
  rw [accountParams_texts]
  cases checkBlockKey block with
  | error e => rfl
  | ok key =>
    cases passed : checkAddress address with
    | error e => rfl
    | ok bare =>
      rw [← eq_withoutMark_of_checkAddress passed]
      rfl

theorem storageQuery_texts :
    (storageParams (.array [.string address, .string position, .string block])).map
        (fun (address, position, key) => LedgerQuery.storage address position key) =
      (checkBlockKey block).bind fun key =>
        (checkAddress address).bind fun _ =>
          (checkPosition position).map fun _ =>
            .storage (withoutMark address) (withoutMark position) key := by
  rw [storageParams_texts]
  cases checkBlockKey block with
  | error e => rfl
  | ok key =>
    cases passed : checkAddress address with
    | error e => rfl
    | ok bare =>
      rw [← eq_withoutMark_of_checkAddress passed]
      cases passed' : checkPosition position with
      | error e => rfl
      | ok slot =>
        rw [← eq_withoutMark_of_checkPosition passed']
        rfl

end Texts

/-- The selector is checked first, the address next and the position last. -/
theorem check_params (q : Question) (selector : String) :
    q.kind.check (q.params selector) =
      (checkBlockKey selector).bind fun key =>
        (checkAddress q.address).bind fun _ =>
          (q.position?.elim (.ok "") checkPosition).map fun _ => q.query key := by
  cases q with
  | balance address => exact accountQuery_texts address selector
  | code address => exact accountQuery_texts address selector
  | slot address position => exact storageQuery_texts address position selector

/-- What is found in the texts is what the method computes from them. -/
theorem Checked.check_eq {q : Question} {selector : String} {found : Except Error LedgerQuery}
    (h : q.Checked selector found) : q.kind.check (q.params selector) = found := by
  rw [check_params]
  cases h with
  | unsupported refused => rw [checkBlockKey_of_error refused]; rfl
  | invalid refused => rw [checkBlockKey_of_error refused]; rfl
  | address parsed length =>
    rw [checkBlockKey_of_ok parsed, checkAddress, if_neg length]
    rfl
  | @position key position parsed length own short =>
    have short' : ¬ (4 ≤ position.length ∧ position.length % 2 = 0) := by omega
    rw [checkBlockKey_of_ok parsed, checkAddress, if_pos length, own]
    show (checkPosition position).map _ = _
    rw [checkPosition, if_neg short']
    rfl
  | passed parsed length long =>
    rw [checkBlockKey_of_ok parsed, checkAddress, if_pos length]
    cases own : q.position? with
    | none => rfl
    | some position =>
      show (checkPosition position).map _ = _
      rw [checkPosition, if_pos (long position own)]
      rfl

/-- Something is found in the texts of every question. -/
theorem exists_checked (q : Question) (selector : String) : ∃ found, q.Checked selector found := by
  cases parsed : BlockKey.parseText selector with
  | error kind =>
    cases kind with
    | unsupported => exact ⟨_, .unsupported parsed⟩
    | invalid => exact ⟨_, .invalid parsed⟩
  | ok key =>
    by_cases length : q.address.length = 42
    · by_cases long : ∀ position, q.position? = some position →
          4 ≤ position.length ∧ position.length % 2 = 0
      · exact ⟨_, .passed parsed length long⟩
      · simp only [not_forall] at long
        obtain ⟨position, own, short⟩ := long
        exact ⟨_, .position parsed length own (by omega)⟩
    · exact ⟨_, .address parsed length⟩

/-- The checks find what the method computes from its parameters, and nothing else. -/
theorem finds_iff {k : Kind} {params : Json} {found : Except Error LedgerQuery} :
    Finds k params found ↔ k.check params = found := by
  have sound {found : Except Error LedgerQuery} (h : Finds k params found) :
      k.check params = found := by
    cases h with
    | shape h => exact check_of_not_shaped h
    | texts kind params checked =>
      subst kind params
      exact checked.check_eq
  have total : ∃ found, Finds k params found := by
    by_cases shaped : k.Shaped params
    · obtain ⟨q, selector, kind, eq⟩ := shaped_iff.1 shaped
      obtain ⟨found, checked⟩ := exists_checked q selector
      exact ⟨found, .texts kind eq checked⟩
    · exact ⟨_, .shape shaped⟩
  refine ⟨sound, ?_⟩
  rintro rfl
  obtain ⟨found, finds⟩ := total
  rw [sound finds]
  exact finds

end Question

/-! ## Methods that follow their checks -/

/-- Both ledgers answer the query alike. -/
def SameAnswer (client client' : LedgerClient) : LedgerQuery → Prop
  | .account address key => client.getAccount address key = client'.getAccount address key
  | .storage address position key =>
      client.getStorage address position key = client'.getStorage address position key

/-- The ledger fails to answer the query. -/
def Fails (client : LedgerClient) : LedgerQuery → Prop
  | .account address key => ∃ failure, client.getAccount address key = .error failure
  | .storage address position key =>
      ∃ failure, client.getStorage address position key = .error failure

/-- The ledger fails to answer the query, and the failure can be described. -/
def Tells (client : LedgerClient) : LedgerQuery → Prop
  | .account address key => ∃ failure description,
      client.getAccount address key = .error failure ∧ failure.told = .ok description
  | .storage address position key => ∃ failure description,
      client.getStorage address position key = .error failure ∧ failure.told = .ok description

/-- A method does as its checks find. It is refused with the error, and puts no query; or it puts
the query, once, and all that becomes of it is settled by the answer. On its way it writes its name
to the log, once, and an error exactly if the ledger fails and the failure can be described. -/
structure Follows (name : String) (found : Except Error LedgerQuery)
    (run : LedgerClient → Traced (Except MethodFault Reply)) : Prop where
  refused : ∀ e, found = .error e → ∀ client,
    (run client).value = .error (.refused e) ∧ (run client).queries = []
  asked : ∀ query, found = .ok query → ∀ client, (run client).queries = [query]
  settled : ∀ query, found = .ok query → ∀ client client', SameAnswer client client' query →
    run client = run client'
  announced : ∀ client, (run client).entries.filter (·.severity = .info) =
    [⟨.info, methodsLogger, name⟩]
  alarmed : ∀ client, (∃ entry ∈ (run client).entries, entry.severity = .error) ↔
    ∃ query, found = .ok query ∧ Tells client query

section Following

variable {name : String} {run : LedgerClient → Traced (Except MethodFault Reply)}

theorem follows_refused {e : Error} (h : ∀ client, run client = do
      Traced.log .info methodsLogger name
      pure (.error (.refused e))) :
    Follows name (.error e) run where
  refused := by
    intro e' same client
    obtain rfl := Except.error.inj same
    rw [h client]
    exact ⟨rfl, rfl⟩
  asked := by
    intro query same
    cases same
  settled := by
    intro query same
    cases same
  announced := by
    intro client
    rw [h client]
    rfl
  alarmed := by
    intro client
    rw [h client]
    refine iff_of_false ?_ ?_
    · rintro ⟨entry, mem, severity⟩
      obtain rfl := List.mem_singleton.1 mem
      cases severity
    · rintro ⟨query, same, -⟩
      cases same

/-- The log of a reply holds an error exactly if there was no answer and it is known why. -/
theorem replyTo_events {α : Type} (name : String) (answer : Except QueryFailure (Option α))
    (reply : α → Except MethodFault Reply) :
    (replyTo name answer reply).events = match answer with
      | .ok _ => []
      | .error failure => match failure.told with
        | .ok description =>
          [.logged ⟨.error, methodsLogger, s!"{name}: ledger query failed: {description}"⟩]
        | .error _ => [] := by
  rcases answer with failure | _ | a
  · cases told : failure.told with
    | ok description =>
      simp [replyTo, told]
      rfl
    | error ending => simp [replyTo, told]
  · rfl
  · rfl

theorem follows_asked {α : Type} {query : LedgerQuery}
    {answer : LedgerClient → Except QueryFailure (Option α)} (reply : α → Except MethodFault Reply)
    (same : ∀ client client', SameAnswer client client' query → answer client = answer client')
    (tells : ∀ client, Tells client query ↔
      ∃ failure description, answer client = .error failure ∧ failure.told = .ok description)
    (h : ∀ client, run client = do
      Traced.log .info methodsLogger name
      Traced.queried query
      replyTo name (answer client) reply) :
    Follows name (.ok query) run := by
  have events (client : LedgerClient) : (run client).events =
      [.logged ⟨.info, methodsLogger, name⟩, .queried query] ++
        (replyTo name (answer client) reply).events := by
    rw [h client]
    rfl
  constructor
  case refused =>
    intro e same
    cases same
  case asked =>
    intro query' same client
    obtain rfl := Except.ok.inj same
    rw [Traced.queries, events, replyTo_events]
    rcases answer client with failure | _
    · cases told : failure.told <;> simp [told]
    · rfl
  case settled =>
    intro query' eq client client' alike
    obtain rfl := Except.ok.inj eq
    rw [h client, h client', same client client' alike]
  case announced =>
    intro client
    rw [Traced.entries, events, replyTo_events]
    rcases answer client with failure | _
    · cases told : failure.told <;> simp [told]
    · rfl
  case alarmed =>
    intro client
    have asked : (∃ query', (.ok query : Except Error LedgerQuery) = .ok query' ∧
        Tells client query') ↔
          ∃ failure description, answer client = .error failure ∧ failure.told = .ok description := by
      rw [← tells client]
      simp
    rw [asked, Traced.entries, events, replyTo_events]
    rcases answer client with failure | _
    · cases told : failure.told <;> simp [told]
    · simp

end Following

theorem follows_accountMethod (name : String) (part : Account → Except MethodFault Reply)
    (params : Json) :
    Follows name ((accountParams params).map fun (address, key) => .account address key)
      (accountMethod name part params) := by
  cases asked : accountParams params with
  | error e =>
    refine follows_refused fun client => ?_
    simp only [accountMethod, asked]
  | ok texts =>
    obtain ⟨address, key⟩ := texts
    refine follows_asked part (fun _ _ alike => alike) (fun _ => Iff.rfl) fun client => ?_
    simp only [accountMethod, asked]

theorem follows_getStorageAt (params : Json) :
    Follows "eth_getStorageAt"
      ((storageParams params).map fun (address, position, key) => .storage address position key)
      (getStorageAt params) := by
  cases asked : storageParams params with
  | error e =>
    refine follows_refused fun client => ?_
    simp only [getStorageAt, asked]
  | ok texts =>
    obtain ⟨address, position, key⟩ := texts
    refine follows_asked (fun v => .ok (dataReply v)) (fun _ _ alike => alike) (fun _ => Iff.rfl)
      fun client => ?_
    simp only [getStorageAt, asked]

namespace Question

theorem follows_check (k : Kind) (params : Json) :
    Follows k.method.1 (k.check params) (k.method.2 params) := by
  cases k with
  | balance => exact follows_accountMethod _ balanceReply params
  | code => exact follows_accountMethod _ (fun account => .ok (dataReply account.code)) params
  | slot => exact follows_getStorageAt params

/-- **The checks decide.** For all parameters the checks of a method find one thing, and for every
ledger the method follows it. -/
theorem checks_decide (k : Kind) (params : Json) :
    (∃! found, Finds k params found) ∧
      ∀ found, Finds k params found → Follows k.method.1 found (k.method.2 params) := by
  simp only [finds_iff]
  refine ⟨existsUnique_eq', ?_⟩
  rintro _ rfl
  exact follows_check k params

/-- Of a short address and a short position the address is told. -/
theorem checks_decide_two_faults :
    Finds .slot (.array [.string "0x12", .string "0x1", .string "latest"])
        (.error ⟨-32602, "Invalid address length: 4 != 42"⟩) ∧
      Follows "eth_getStorageAt" (.error ⟨-32602, "Invalid address length: 4 != 42"⟩)
        (getStorageAt (.array [.string "0x12", .string "0x1", .string "latest"])) := by
  have checked : (Question.slot "0x12" "0x1").Checked "latest"
      (.error ⟨-32602, "Invalid address length: 4 != 42"⟩) :=
    .address BlockKey.parseText_latest (by decide)
  have finds : Finds .slot (.array [.string "0x12", .string "0x1", .string "latest"])
      (.error ⟨-32602, "Invalid address length: 4 != 42"⟩) := .texts rfl rfl checked
  exact ⟨finds, (checks_decide .slot _).2 _ finds⟩

/-- A ledger whose failures cannot be described: to make a text of one fails as well. -/
def speechlessLedger : LedgerClient where
  getAccount _ _ := .error (.untold (.crashed (.other "maximum recursion depth exceeded")))
  getStorage _ _ _ := .error (.untold (.crashed (.other "maximum recursion depth exceeded")))

/-- No error is written to the log where the query is cancelled, or its failure not described. And
the dispatcher writes one of its own where the query is answered with a balance below zero. -/
theorem not_alarmed_cancelled_or_speechless_or_indebted :
    Finds .balance newestParams (.ok (.account "abababababababababababababababababababab" .latest)) ∧
      (Fails cancelledLedger (.account "abababababababababababababababababababab" .latest) ∧
        ¬ ∃ entry ∈ (getBalance newestParams cancelledLedger).entries, entry.severity = .error) ∧
      (Fails speechlessLedger (.account "abababababababababababababababababababab" .latest) ∧
        ¬ ∃ entry ∈ (getBalance newestParams speechlessLedger).entries,
          entry.severity = .error) ∧
      ¬ Fails indebtedLedger (.account "abababababababababababababababababababab" .latest) ∧
        ∃ entry ∈ (handle .thousand accountTable indebtedLedger (.value balanceQuestion)).entries,
          entry.severity = .error := by
  have finds : Finds .balance newestParams
      (.ok (.account "abababababababababababababababababababab" .latest)) := finds_iff.2 rfl
  have silent {client : LedgerClient}
      (untold : ¬ Tells client (.account "abababababababababababababababababababab" .latest)) :
      ¬ ∃ entry ∈ (getBalance newestParams client).entries, entry.severity = .error := by
    have alarmed := (follows_check .balance newestParams).alarmed client
    rw [finds_iff.1 finds] at alarmed
    intro error
    obtain ⟨query, same, tells⟩ := alarmed.1 error
    cases same
    exact untold tells
  refine ⟨finds, ⟨⟨_, rfl⟩, silent ?_⟩, ⟨⟨_, rfl⟩, silent ?_⟩, ?_, ?_⟩
  · rintro ⟨failure, description, ⟨⟩, ⟨⟩⟩
  · rintro ⟨failure, description, ⟨⟩, ⟨⟩⟩
  · rintro ⟨failure, ⟨⟩⟩
  · exact ⟨⟨.error, serverLogger, "Error handling RPC method eth_getBalance"⟩, by decide, rfl⟩

end Question

end LedgerGateway.Rpc
