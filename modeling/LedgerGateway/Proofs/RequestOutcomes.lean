import LedgerGateway.Proofs.EntryPoints
import LedgerGateway.Proofs.HiddenFailures
import LedgerGateway.Proofs.WireAnswers

/-!
# How a request for an account method ends

A request with an id that names a method comes to a result or to an error, and the error is one of
four: no method is named, there is none of the name, the method refuses, or it breaks down.

* `returns_or_refused` — there is no other end, and what is returned is a text or null.
* `answer_of_returns`, `answer_of_refusedWith` — the answers to a body that spells the request.
* `RefusedWith.short` — the codes of the errors are short.
-/

namespace LedgerGateway.Rpc

open Decimal (digitLimit)

variable {client : LedgerClient} {name : String} {params : Json}

/-! ## Ends -/

/-- The account method of the name returns a value. -/
def Returns (client : LedgerClient) (name : String) (params v : Json) : Prop :=
  ∃ m, accountTable.find? name = some m ∧ (m params client).value = .ok (.value v)

/-- The error that a request is answered with if no value is returned. -/
inductive RefusedWith (client : LedgerClient) (name : String) (params : Json) : Error → Prop where
  | missing : name = "" → RefusedWith client name params (.invalidRequest "Missing method")
  | unknown : name ≠ "" → accountTable.find? name = none →
      RefusedWith client name params (.methodNotFound name)
  | refused {m e} : accountTable.find? name = some m →
      (m params client).value = .error (.refused e) → RefusedWith client name params e
  | crashed {m c} : accountTable.find? name = some m →
      (m params client).value = .error (.crashed c) → RefusedWith client name params .internal

theorem ne_empty_of_find? {m : Method} (found : accountTable.find? name = some m) : name ≠ "" := by
  rintro rfl
  cases found

/-- What is returned is a text or null. -/
theorem Returns.textual {v : Json} (h : Returns client name params v) :
    (Reply.value v).Textual := by
  obtain ⟨m, found, returned⟩ := h
  exact accountTable_textual found returned

theorem Returns.unique {v v' : Json} (h : Returns client name params v)
    (h' : Returns client name params v') : v = v' := by
  obtain ⟨m, found, returned⟩ := h
  obtain ⟨m', found', returned'⟩ := h'
  cases found.symm.trans found'
  cases returned.symm.trans returned'
  rfl

/-- A request has no other end than these where the ledger fails in ordinary ways. -/
theorem returns_or_refused (ordinary : client.Ordinary) (name : String) (params : Json) :
    (∃ v, Returns client name params v) ∨ ∃ e, RefusedWith client name params e := by
  by_cases named : name = ""
  · exact .inr ⟨_, .missing named⟩
  · cases found : accountTable.find? name with
    | none => exact .inr ⟨_, .unknown named found⟩
    | some m =>
      obtain ⟨member, ends⟩ := accountTable_plain ordinary name m found params
      cases ended : (m params client).value with
      | error fault =>
        rw [ended] at ends
        cases ends with
        | refused e => exact .inr ⟨_, .refused found ended⟩
        | crashed c => exact .inr ⟨_, .crashed found ended⟩
      | ok reply =>
        rw [ended] at ends
        cases ends with
        | value v => exact .inl ⟨v, m, found, ended⟩

/-! ## Codes -/

/-- Behind the checks a method refuses only because the ledger failed. -/
theorem eq_internal_of_endingOf {α : Type} {reply : α → Except MethodFault Reply}
    (never : ∀ a e, reply a ≠ .error (.refused e)) {answer : Except QueryFailure (Option α)}
    (ordinary : ∀ failure, answer = .error failure → failure.Ordinary)
    {e : Error} (h : endingOf reply answer = .error (.refused e)) : e = .internal := by
  rcases answer with failure | _ | a
  · have hidden := hidden_ending (ordinary failure rfl)
    rw [show (.error failure.ending : Except MethodFault Reply) = _ from h] at hidden
    cases hidden
    rfl
  · cases h
  · exact absurd h (never a e)

theorem declined_accountMethod (ordinary : client.Ordinary) {label : String}
    {part : Account → Except MethodFault Reply}
    (never : ∀ account e, part account ≠ .error (.refused e)) {e : Error}
    (h : (accountMethod label part params client).value = .error (.refused e)) :
    Declined e ∨ e = .internal := by
  rw [accountMethod_value] at h
  cases asked : accountParams params with
  | error e' =>
    rw [asked] at h
    cases h
    exact .inl (declines_accountParams params _ asked)
  | ok pair =>
    rw [asked] at h
    exact .inr (eq_internal_of_endingOf never (ordinary.account _ _) h)

theorem declined_getStorageAt (ordinary : client.Ordinary) {e : Error}
    (h : (getStorageAt params client).value = .error (.refused e)) :
    Declined e ∨ e = .internal := by
  rw [getStorageAt_value] at h
  cases asked : storageParams params with
  | error e' =>
    rw [asked] at h
    cases h
    exact .inl (declines_storageParams params _ asked)
  | ok triple =>
    rw [asked] at h
    exact .inr (eq_internal_of_endingOf (fun v e' same => by cases same)
      (ordinary.storage _ _ _) h)

theorem balanceReply_ne_refused (account : Account) (e : Error) :
    balanceReply account ≠ .error (.refused e) := by
  unfold balanceReply
  split <;> simp

/-- An account method refuses for its parameters, or because the ledger failed. -/
theorem declined_of_refused (ordinary : client.Ordinary) {m : Method}
    (found : accountTable.find? name = some m) {e : Error}
    (h : (m params client).value = .error (.refused e)) : Declined e ∨ e = .internal := by
  have listed := mem_of_find?_accountTable found
  simp only [accountMethods, List.mem_cons, Prod.mk.injEq, List.not_mem_nil, or_false] at listed
  obtain ⟨-, rfl⟩ | ⟨-, rfl⟩ | ⟨-, rfl⟩ | ⟨-, rfl⟩ | ⟨-, rfl⟩ | ⟨-, rfl⟩ := listed
  · exact declined_accountMethod ordinary balanceReply_ne_refused h
  · exact declined_getStorageAt ordinary h
  · exact declined_accountMethod ordinary (fun account e' same => by cases same) h
  all_goals
    cases h
    exact .inl .notImplemented

/-- The codes that a request is answered with have five digits. -/
theorem RefusedWith.short (ordinary : client.Ordinary) {e : Error}
    (h : RefusedWith client name params e) :
    (Decimal.digits e.code.natAbs).length ≤ Decimal.digitLimit := by
  cases h with
  | missing => decide
  | unknown =>
    show (Decimal.digits 32601).length ≤ Decimal.digitLimit
    decide
  | crashed => decide
  | refused found ended =>
    rcases declined_of_refused ordinary found ended with declined | rfl
    · cases declined with
      | notImplemented => decide
      | invalidParams message =>
        show (Decimal.digits 32602).length ≤ Decimal.digitLimit
        decide
    · decide

/-! ## Answers -/

section Answers

variable {id : Json} {room : Json.Room} {body : Body}
  (spelt : body.Spells room.depth (requestFor name params id))
  (bounded : body.Bounded room.depth) (owed : id ≠ .null)

include spelt bounded owed

/-- The value is the result under the id. -/
theorem answer_of_returns {v : Json} (h : Returns client name params v) :
    (handle room accountTable client body).value = resultAnswer id v := by
  obtain ⟨m, found, returned⟩ := h
  have asks := asks_requestFor (ne_empty_of_find? found) params id
  exact answer_of_reply spelt bounded asks found owed returned

/-- The error is told under the id. -/
theorem answer_of_refusedWith (ordinary : client.Ordinary) {e : Error}
    (h : RefusedWith client name params e) :
    (handle room accountTable client body).value = errorAnswer id e := by
  have single : ∀ items, requestFor name params id ≠ .array items := by
    rintro items ⟨⟩
  have short := h.short ordinary
  cases h with
  | missing none_ =>
    have noName : ∀ other, ¬ Asks (requestFor name params id) other := by
      rintro other ⟨-, method, named⟩
      cases method
      exact named none_
    exact (yields_refused noName).handle_eq single spelt bounded (fits_error short)
  | unknown named none_ =>
    have asks : Asks (requestFor name params id) name := asks_requestFor named params id
    have waits : ¬ Silent (requestFor name params id) := fun silent =>
      owed ((silent_iff asks).1 silent)
    have ends : EndsIn (call accountTable client name params).value
        ("error", (Error.methodNotFound name).toJson) := by
      rw [call_of_unknown none_]
      exact .refused _
    exact (yields_of_endsIn asks waits ends).handle_eq single spelt bounded (fits_error short)
  | refused found ended =>
    have asks := asks_requestFor (ne_empty_of_find? found) params id
    exact answer_of_refusal spelt bounded asks found owed ended short
  | crashed found ended =>
    have asks := asks_requestFor (ne_empty_of_find? found) params id
    have answered := answer_of_crash spelt bounded asks found owed ended
    exact answered

end Answers

end LedgerGateway.Rpc
