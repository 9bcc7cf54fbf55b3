import LedgerGateway.Proofs.WrittenResponses

/-!
# One request and what it is owed

A request asks for a method if it is an object of the current version that names one. One that asks
and carries no id is a notification and is owed nothing; every other value is owed a response under
the id it carries. `handleSingle` branches on the members in four places; the two lemmas here say
all that it can do, and nothing later opens it again.

* `handleSingle_of_asks` — a request that asks is handed to `call`, and stays silent without an id.
* `handleSingle_refused` — everything else is refused under its own id and calls nothing.
* `MethodTable.Plain` — methods that reply with JSON, refuse, or break down.
* `exists_yields` — with such methods every request gets what it is owed.
* `handleValue_single` — a body that is no batch is answered as its one request is.
-/

namespace LedgerGateway.Rpc

/-! ## What a request says -/

/-- The id that a request carries: null if it carries none or is no object. -/
def carriedId (v : Json) : Json := (v.member? "id").getD .null

/-- The parameters that a request carries. -/
def carriedParams (v : Json) : Json := (v.member? "params").getD .null

/-- An object of the current version that names a method. -/
structure Asks (v : Json) (name : String) : Prop where
  version : v.member? "jsonrpc" = none ∨ v.member? "jsonrpc" = some (.string "2.0")
  method : v.member? "method" = some (.string name)
  named : name ≠ ""

/-- A request for a method, with parameters and an id. -/
def requestFor (name : String) (params id : Json) : Json :=
  .object [("jsonrpc", .string "2.0"), ("method", .string name), ("params", params), ("id", id)]

theorem asks_requestFor {name : String} (named : name ≠ "") (params id : Json) :
    Asks (requestFor name params id) name := ⟨.inr rfl, rfl, named⟩

/-- A notification: a request that asks and has no id, or null for one. -/
structure Silent (v : Json) : Prop where
  asks : ∃ name, Asks v name
  noId : v.member? "id" = none ∨ v.member? "id" = some .null

theorem Asks.isObject {v : Json} {name : String} (h : Asks v name) : ∃ ms, v = .object ms := by
  have hm := h.method
  cases v with
  | object ms => exact ⟨ms, rfl⟩
  | _ => exact absurd hm (by simp [Json.member?])

theorem carriedId_eq_null_iff {v : Json} :
    carriedId v = .null ↔ v.member? "id" = none ∨ v.member? "id" = some .null := by
  unfold carriedId
  cases v.member? "id" <;> simp

theorem Silent.carriedId_eq {v : Json} (h : Silent v) : carriedId v = .null :=
  carriedId_eq_null_iff.2 h.noId

theorem silent_iff {v : Json} {name : String} (h : Asks v name) :
    Silent v ↔ carriedId v = .null :=
  ⟨fun hs => hs.carriedId_eq, fun hid => ⟨⟨name, h⟩, carriedId_eq_null_iff.1 hid⟩⟩

theorem carriedId_of_not_object {v : Json} (h : ∀ ms, v ≠ .object ms) : carriedId v = .null := by
  cases v with
  | object ms => exact absurd rfl (h ms)
  | _ => rfl

/-! ## The members of a request -/

section Members

variable (ms : List (String × Json))

theorem id_ofMembers : (Request.ofMembers ms).id = carriedId (.object ms) := rfl

theorem isNotification_ofMembers :
    (Request.ofMembers ms).isNotification = true ↔ carriedId (.object ms) = .null := by
  rw [← id_ofMembers, Request.isNotification]
  split <;> simp_all

/-- An absent version counts as the current one, any other value does not. -/
theorem isCurrent_ofMembers :
    (Request.ofMembers ms).isCurrent = true ↔
      (Json.object ms).member? "jsonrpc" = none ∨
        (Json.object ms).member? "jsonrpc" = some (.string "2.0") := by
  simp only [Request.isCurrent, Request.ofMembers, Request.memberOr, Json.member?]
  cases hl : ms.lookup "jsonrpc" with
  | none => simp
  | some v => cases v <;> simp

theorem methodName?_ofMembers {name : String} :
    (Request.ofMembers ms).methodName? = some name ↔
      (Json.object ms).member? "method" = some (.string name) ∧ name ≠ "" := by
  simp only [Request.methodName?, Request.ofMembers, Request.memberOr, Json.member?]
  cases hl : ms.lookup "method" with
  | none => simp
  | some v =>
    cases v with
    | string s =>
      simp only [Option.getD_some, Option.some.injEq, Json.string.injEq]
      by_cases hs : s = ""
      · subst hs
        simp only [if_true, reduceCtorEq, false_iff, not_and, not_not]
        exact fun he => he.symm
      · rw [if_neg hs, Option.some.injEq]
        exact ⟨fun he => ⟨he, he ▸ hs⟩, fun he => he.1⟩
    | _ => simp

end Members

/-! ## One request -/

variable (methods : MethodTable) (client : LedgerClient)

theorem handleSingle_of_not_object {v : Json} (h : ∀ ms, v ≠ .object ms) :
    handleSingle methods client v =
      pure (.ok (some (.failure .null (.invalidRequest "Invalid request")))) := by
  cases v with
  | object ms => exact absurd rfl (h ms)
  | _ => rfl

/-- How a call ends for a request: nobody is told without an id. -/
theorem conclude_eq (ms : List (String × Json)) (ending : Except MethodFault Reply) :
    (carriedId (.object ms) = .null → conclude (Request.ofMembers ms) ending = dropped ending) ∧
      (carriedId (.object ms) ≠ .null → conclude (Request.ofMembers ms) ending =
        (respond (carriedId (.object ms)) ending).map some) := by
  rw [Ne, ← isNotification_ofMembers, conclude]
  exact ⟨fun silent => if_pos silent, fun owed => if_neg owed⟩

/-- A request that asks leaves behind what its call does, and is answered unless it is silent. -/
theorem handleSingle_of_asks {v : Json} {name : String} (h : Asks v name) :
    (handleSingle methods client v).events =
        (call methods client name (carriedParams v)).events ∧
      (Silent v → (handleSingle methods client v).value =
        dropped (call methods client name (carriedParams v)).value) ∧
      (¬ Silent v → (handleSingle methods client v).value =
        (respond (carriedId v) (call methods client name (carriedParams v)).value).map some) := by
  obtain ⟨ms, rfl⟩ := h.isObject
  have hc : (Request.ofMembers ms).isCurrent = true := (isCurrent_ofMembers ms).2 h.version
  have hn : (Request.ofMembers ms).methodName? = some name :=
    (methodName?_ofMembers ms).2 ⟨h.method, h.named⟩
  have hs : handleSingle methods client (.object ms) = (do
      let ending ← call methods client name (carriedParams (.object ms))
      pure (conclude (Request.ofMembers ms) ending)) := by
    show handleMembers methods client ms = _
    unfold handleMembers
    simp only [hc, hn, Bool.not_true, Bool.false_eq_true, if_false]
    rfl
  obtain ⟨silent, owed⟩ :=
    conclude_eq ms (call methods client name (carriedParams (.object ms))).value
  rw [silent_iff h, hs]
  exact ⟨by simp, silent, owed⟩

/-- What is wrong with a value that asks for no method. -/
def refusal : Json → String
  | .object ms =>
    if (Request.ofMembers ms).isCurrent then "Missing method" else "Invalid JSON-RPC version"
  | _ => "Invalid request"

/-- A request that does not ask is refused under the id it carries, for what is wrong with it. -/
theorem handleSingle_refused {v : Json} (h : ∀ name, ¬ Asks v name) :
    handleSingle methods client v =
      pure (.ok (some (.failure (carriedId v) (.invalidRequest (refusal v))))) := by
  by_cases ho : ∃ ms, v = .object ms
  · obtain ⟨ms, rfl⟩ := ho
    show handleMembers methods client ms = _
    unfold handleMembers
    by_cases hc : (Request.ofMembers ms).isCurrent = true
    · cases hn : (Request.ofMembers ms).methodName? with
      | none =>
        simp only [hc, hn, refusal]
        rfl
      | some name =>
        obtain ⟨hm, hne⟩ := (methodName?_ofMembers ms).1 hn
        exact absurd ⟨(isCurrent_ofMembers ms).1 hc, hm, hne⟩ (h name)
    · simp only [hc, refusal]
      rfl
  · have hv : ∀ ms, v ≠ .object ms := fun ms he => ho ⟨ms, he⟩
    rw [handleSingle_of_not_object methods client hv, carriedId_of_not_object hv]
    cases v with
    | object ms => exact absurd rfl (hv ms)
    | _ => rfl

theorem dropped_ne_response {ending : Except MethodFault Reply} {r : Response} :
    dropped ending ≠ .ok (some r) := by
  unfold dropped
  split <;> simp

theorem respond_eq_ok {id : Json} {ending : Except MethodFault Reply} {r : Response}
    (h : respond id ending = .ok r) : ∃ outcome, r = ⟨.string "2.0", id, outcome⟩ := by
  unfold respond at h
  split at h <;> first | cases h; exact ⟨_, rfl⟩ | cases h

/-- Whatever response a request gets, it is under the id that the request carries. -/
theorem handleSingle_response {v : Json} {r : Response}
    (h : (handleSingle methods client v).value = .ok (some r)) :
    ¬ Silent v ∧ ∃ outcome, r = ⟨.string "2.0", carriedId v, outcome⟩ := by
  by_cases ha : ∃ name, Asks v name
  · obtain ⟨name, hv⟩ := ha
    obtain ⟨-, hs, hr⟩ := handleSingle_of_asks methods client hv
    by_cases silent : Silent v
    · exact absurd ((hs silent).symm.trans h) dropped_ne_response
    · refine ⟨silent, ?_⟩
      rw [hr silent] at h
      cases responded : respond (carriedId v) (call methods client name (carriedParams v)).value with
      | error fault => simp [responded, Except.map] at h
      | ok r' =>
        obtain rfl : r' = r := by simpa [responded, Except.map] using h
        exact respond_eq_ok responded
  · rw [handleSingle_refused methods client fun name hv => ha ⟨name, hv⟩] at h
    have same : Response.failure (carriedId v) (.invalidRequest (refusal v)) = r := by
      simpa using h
    exact ⟨fun silent => ha silent.asks, _, same.symm⟩

/-! ## Plain methods -/

/-- What a caller is told of the end of a method: a value, an error that the method refuses with, or
an error that hides why it broke down. -/
inductive EndsIn : Except MethodFault Reply → String × Json → Prop where
  | value (v : Json) : EndsIn (.ok (.value v)) ("result", v)
  | refused (e : Error) : EndsIn (.error (.refused e)) ("error", e.toJson)
  | crashed (c : Crash) : EndsIn (.error (.crashed c)) ("error", Error.internal.toJson)

/-- With the ledger the methods of the table reply with JSON, refuse with an error, or break
down. -/
def MethodTable.Plain : Prop :=
  ∀ name m, methods.find? name = some m → ∀ params, ∃ member, EndsIn (m params client).value member

/-- The last member of a response: a result, or an error that is an integer and a text. -/
inductive Ending : String × Json → Prop where
  | result (v : Json) : Ending ("result", v)
  | error (code : Int) (message : String) :
      Ending ("error", .object [("code", .int code), ("message", .string message)])

theorem ending_error (e : Error) : Ending ("error", e.toJson) := .error e.code e.message

/-- The response that a request gets, if it gets one. -/
inductive Gets (v : Json) : Option Json → Prop where
  | nothing : Silent v → Gets v none
  | response {ending} : ¬ Silent v → Ending ending → Gets v (some (members (carriedId v) ending))

/-- What is said in answer to a request, if anything. -/
inductive Yields (v : Json) : Option Json → Prop where
  | nothing : (handleSingle methods client v).value = .ok none → Yields v none
  | response {r w} : (handleSingle methods client v).value = .ok (some r) → r.Says w →
      Yields v (some w)

variable {methods client}

section EndsIn

variable {ending : Except MethodFault Reply} {member : String × Json}

theorem EndsIn.regular (h : EndsIn ending member) : Ending member := by
  cases h with
  | value v => exact .result v
  | refused e => exact ending_error e
  | crashed c => exact ending_error .internal

theorem EndsIn.dropped_eq (h : EndsIn ending member) : dropped ending = .ok none := by
  cases h <;> rfl

theorem says_failure (id : Json) (e : Error) :
    (Response.failure id e).Says (members id ("error", e.toJson)) := ⟨_, .error _, rfl⟩

theorem EndsIn.respond_eq (h : EndsIn ending member) (id : Json) :
    ∃ r, respond id ending = .ok r ∧ r.Says (members id member) := by
  cases h with
  | value v => exact ⟨_, rfl, _, .result v, rfl⟩
  | refused e => exact ⟨_, rfl, says_failure id e⟩
  | crashed c => exact ⟨_, rfl, says_failure id .internal⟩

end EndsIn

theorem call_of_found {name : String} {m : Method} (found : methods.find? name = some m)
    (params : Json) : (call methods client name params).value = (m params client).value := by
  rw [call, found]
  rfl

theorem call_of_unknown {name : String} (none_ : methods.find? name = none) (params : Json) :
    call methods client name params = pure (.error (.refused (.methodNotFound name))) := by
  rw [call, none_]

theorem MethodTable.Plain.call (h : methods.Plain client) (name : String) (params : Json) :
    ∃ member, EndsIn (call methods client name params).value member := by
  cases found : methods.find? name with
  | none =>
    rw [call_of_unknown found]
    exact ⟨_, .refused _⟩
  | some m =>
    rw [call_of_found found]
    exact h name m found params

theorem Yields.unique {v : Json} {response response' : Option Json}
    (h : Yields methods client v response) (h' : Yields methods client v response') :
    response = response' := by
  cases h with
  | nothing none_ =>
    cases h' with
    | nothing _ => rfl
    | response some_ _ => exact absurd (none_.symm.trans some_) (by simp)
  | response some_ said =>
    cases h' with
    | nothing none_ => exact absurd (none_.symm.trans some_) (by simp)
    | response some_' said' =>
      obtain rfl := Option.some.inj (Except.ok.inj (some_.symm.trans some_'))
      rw [said.unique said']

/-- Where somebody waits for the end of a call, it is told. -/
theorem yields_of_endsIn {v : Json} {name : String} (asks : Asks v name) (owed : ¬ Silent v)
    {member : String × Json}
    (h : EndsIn (call methods client name (carriedParams v)).value member) :
    Yields methods client v (some (members (carriedId v) member)) := by
  obtain ⟨-, -, answered⟩ := handleSingle_of_asks methods client asks
  obtain ⟨r, responded, said⟩ := h.respond_eq (carriedId v)
  refine .response ?_ said
  rw [answered owed, responded]
  rfl

theorem yields_refused {v : Json} (h : ∀ name, ¬ Asks v name) :
    Yields methods client v
      (some (members (carriedId v) ("error", (Error.invalidRequest (refusal v)).toJson))) :=
  .response (by rw [handleSingle_refused methods client h]; rfl) (says_failure _ _)

/-- With plain methods every request gets what it is owed. -/
theorem exists_yields (h : methods.Plain client) (v : Json) :
    ∃ response, Yields methods client v response ∧ Gets v response := by
  by_cases ha : ∃ name, Asks v name
  · obtain ⟨name, asks⟩ := ha
    obtain ⟨-, hs, -⟩ := handleSingle_of_asks methods client asks
    obtain ⟨member, ends⟩ := h.call name (carriedParams v)
    by_cases silent : Silent v
    · exact ⟨none, .nothing ((hs silent).trans ends.dropped_eq), .nothing silent⟩
    · exact ⟨_, yields_of_endsIn asks silent ends, .response silent ends.regular⟩
  · have refused : ∀ name, ¬ Asks v name := fun name asks => ha ⟨name, asks⟩
    exact ⟨_, yields_refused refused, .response (fun silent => ha silent.asks) (ending_error _)⟩

theorem Yields.handled {v : Json} {response : Option Json} (h : Yields methods client v response) :
    ∃ o, (handleSingle methods client v).value = .ok o := by
  cases h with
  | nothing none_ => exact ⟨_, none_⟩
  | response some_ _ => exact ⟨_, some_⟩

theorem exists_handled (h : methods.Plain client) (v : Json) :
    ∃ o, (handleSingle methods client v).value = .ok o := by
  obtain ⟨_, yields, -⟩ := exists_yields h v
  exact yields.handled

theorem Gets.eq_none_iff {v : Json} {response : Option Json} (h : Gets v response) :
    response = none ↔ Silent v := by
  cases h with
  | nothing silent => exact iff_of_true rfl silent
  | response owed _ => exact iff_of_false (by simp) owed

/-! ## The answer to one request -/

/-- What a request is answered with, if it comes to an answer: a text, or nothing. -/
def answerTo (depth : Nat) (methods : MethodTable) (client : LedgerClient) (v : Json) :
    Except ServeFault (Option String) :=
  match (handleSingle methods client v).value with
  | .error fault => .error fault
  | .ok none => .ok none
  | .ok (some r) => (encodeOne depth r).map some

variable {depth : Nat}

/-- A body that is no array is answered as its one request is. -/
theorem handleValue_single {v : Json} (h : ∀ items, v ≠ .array items) :
    (handleValue depth methods client v).value = answerTo depth methods client v ∧
      (handleValue depth methods client v).events = (handleSingle methods client v).events := by
  cases v with
  | array items => exact absurd rfl (h items)
  | _ => exact ⟨rfl, by simp [handleValue]⟩

/-- What is said in answer to a request is what it is answered with, if it can be written. -/
theorem Yields.answerTo_eq {v : Json} {response : Option Json}
    (h : Yields methods client v response) (depth : Nat) :
    answerTo depth methods client v = writtenAnswer depth response := by
  cases h with
  | nothing none_ => rw [answerTo, none_, writtenAnswer]
  | response some_ said => rw [answerTo, some_, ← encodeOne_eq said depth]

theorem answerTo_of_not_object {v : Json} (h : ∀ ms, v ≠ .object ms) :
    answerTo depth methods client v =
      (encodeOne depth (.failure .null (.invalidRequest "Invalid request"))).map some := by
  rw [answerTo, handleSingle_of_not_object methods client h]
  rfl

/-- With plain methods a request stays without answer exactly if it is a notification. -/
theorem answerTo_eq_none_iff (h : methods.Plain client) {v : Json} :
    answerTo depth methods client v = .ok none ↔ Silent v := by
  obtain ⟨response, yields, gets⟩ := exists_yields h v
  rw [yields.answerTo_eq, writtenAnswer_eq_none_iff, gets.eq_none_iff]

end LedgerGateway.Rpc
