import LedgerGateway.Http.Gateway
import LedgerGateway.Proofs.Answering

/-!
# One response for each request that is owed one

Notifications are owed nothing, and every other request gets one object of three members: the
version, its own id, and a result or an error. What it gets is written as long as it can be. A body
has no answer at all exactly if it is a notification or a batch of nothing else; over HTTP that is
the status 204.

* `handleValue_eq_none_iff` — which values have no answer.
* `handle_eq_none_iff` — which bodies have no answer.
* `serve_posted` — what becomes over HTTP of the answer to a body.
* `one_response_each` — the three together, for methods that are plain.
-/

namespace LedgerGateway.Rpc

/-- Nobody waits for an answer: a notification, or a batch of notifications alone. -/
def AllSilent (v : Json) : Prop :=
  Silent v ∨ ∃ requests, v = .array requests ∧ requests ≠ [] ∧ ∀ e ∈ requests, Silent e

theorem not_silent_array (items : List Json) : ¬ Silent (.array items) := by
  rintro ⟨⟨name, h⟩, -⟩
  exact absurd h.method (by simp [Json.member?])

variable {methods : MethodTable} {client : LedgerClient}

/-! ## Bodies -/

/-- With plain methods each request of a batch gets what it is owed. -/
theorem exists_yields_each (h : methods.Plain client) (requests : List Json) :
    ∃ responses, List.Forall₂ (Yields methods client) requests responses ∧
      List.Forall₂ Gets requests responses := by
  obtain ⟨responses, each⟩ := exists_forall₂ fun e (_ : e ∈ requests) => exists_yields h e
  exact ⟨responses, each.imp fun _ _ => And.left, each.imp fun _ _ => And.right⟩

theorem all_none_iff {requests : List Json} {responses : List (Option Json)}
    (h : List.Forall₂ Gets requests responses) :
    (∀ response ∈ responses, response = none) ↔ ∀ e ∈ requests, Silent e := by
  induction h with
  | nil => simp
  | cons own _ ih => rw [List.forall_mem_cons, List.forall_mem_cons, ih, own.eq_none_iff]

/-- A value that was read has no answer exactly if nobody waits for one. -/
theorem handleValue_eq_none_iff {depth : Nat} (h : methods.Plain client) (v : Json) :
    (handleValue depth methods client v).value = .ok none ↔ AllSilent v := by
  by_cases ha : ∃ items, v = .array items
  · obtain ⟨requests, rfl⟩ := ha
    have hs : AllSilent (.array requests) ↔ requests ≠ [] ∧ ∀ e ∈ requests, Silent e := by
      refine ⟨?_, fun hr => .inr ⟨requests, rfl, hr⟩⟩
      rintro (hs | ⟨_, heq, hr⟩)
      · exact absurd hs (not_silent_array requests)
      · cases heq
        exact hr
    rw [hs]
    by_cases hne : requests = []
    · subst hne
      exact ⟨fun he => absurd he (by simp [handleValue]), fun he => absurd rfl he.1⟩
    · obtain ⟨responses, yields, gets⟩ := exists_yields_each h requests
      rw [handleValue_batch hne yields, writtenAnswer_eq_none_iff, arrayOf_eq_none_iff,
        all_none_iff gets]
      simp [hne]
  · have hv : ∀ items, v ≠ .array items := fun items he => ha ⟨items, he⟩
    rw [(handleValue_single hv).1, answerTo_eq_none_iff h]
    refine ⟨.inl, fun hs => hs.resolve_right ?_⟩
    rintro ⟨items, he, -⟩
    exact hv items he

/-- A body has no answer exactly if it was read and nobody waits for one. -/
theorem handle_eq_none_iff (h : methods.Plain client) {room : Json.Room} {body : Body} :
    (handle room methods client body).value = .ok none ↔
      ∃ v, body.Spells room.depth v ∧ AllSilent v := by
  constructor
  · intro hn
    by_cases hv : ∃ v, body.Spells room.depth v
    · obtain ⟨v, spelt⟩ := hv
      rw [handle_of_spells spelt, handleValue_eq_none_iff h] at hn
      exact ⟨v, spelt, hn⟩
    · -- What was not read is answered with an error, or it is a fault of the transport.
      by_cases ho : body.Overruns room.depth
      · obtain ⟨fault, hf⟩ := handle_of_overruns ho methods client
        exact absurd (hf.symm.trans hn) (by simp)
      · obtain ⟨reason, hr⟩ := handle_of_unread hv ho methods client
        exact absurd (hr.symm.trans hn) (by simp)
  · rintro ⟨v, spelt, hs⟩
    rw [handle_of_spells spelt]
    exact (handleValue_eq_none_iff h v).2 hs

end LedgerGateway.Rpc

/-! ## Over HTTP -/

namespace LedgerGateway.Http

variable {room : Json.Room} {policy : Policy} {r : Request}

/-- A body posted to the dispatcher, within the limit and under a policy that can be used. -/
structure Posted (policy : Policy) (r : Request) : Prop where
  method : r.method = "POST"
  path : r.path = "/"
  size : isAbove? r.body.length policy.maxBody = some false
  origins : policy.corsEnabled = true → ∃ origins, Origins.ofDatum? policy.origins = some origins

/-- The response has the status 204 and no body. -/
def NoContent (served : Served) : Prop :=
  ∃ response, served.response = some response ∧ response.status = 204 ∧ response.body = ""

/-- What becomes of the answer to a body. -/
def servedAnswer (complete : Response → Response) :
    Except Rpc.ServeFault (Option String) → Served
  | .ok (some text) => ⟨some (complete (.ofJson 200 text)), none⟩
  | .ok none => ⟨some (complete ⟨204, [], ""⟩), none⟩
  | .error fault => ⟨some brokenDown, some (.dispatcher fault)⟩

/-- The body is within the limit and goes to the dispatcher, whose answer tells the status. -/
theorem serveWith_posted (h : Posted policy r) (complete : Response → Response)
    (methods : Rpc.MethodTable) (client : LedgerClient) :
    (serveWith complete room policy methods client r).value =
      servedAnswer complete (Rpc.handle room methods client (.bytes r.body)).value := by
  have ht : target r.method r.path = .rpc := by
    rw [h.method, h.path]
    decide
  rw [serveWith, serveTarget, ht]
  simp only [serveBody, h.size, Traced.value_bind, Traced.value_pure]
  cases (Rpc.handle room methods client (.bytes r.body)).value with
  | error fault => rfl
  | ok answer => cases answer <;> rfl

/-- Only a request with the method `OPTIONS` is a preflight request. -/
theorem preflight?_eq_none (other : r.method ≠ "OPTIONS") : r.preflight? = none := by
  rw [Request.preflight?]
  cases r.header? "origin" with
  | none => rfl
  | some origin =>
    cases r.header? "access-control-request-method" with
    | none => rfl
    | some method => exact if_neg other

/-- What is no preflight request is answered for what it asks for; only headers are added. -/
theorem serve_eq_serveWith (preflight : r.preflight? = none)
    (usable : policy.corsEnabled = true →
      ∃ origins, Origins.ofDatum? policy.origins = some origins)
    (methods : Rpc.MethodTable) (client : LedgerClient) :
    ∃ complete : Response → Response,
      (∀ response, (complete response).status = response.status ∧
        (complete response).body = response.body) ∧
      serve room policy methods client r = serveWith complete room policy methods client r := by
  rw [serve]
  by_cases hc : policy.corsEnabled = true
  · obtain ⟨origins, ho⟩ := usable hc
    refine ⟨withAdmission origins r, fun _ => ⟨rfl, rfl⟩, ?_⟩
    rw [if_pos hc, ho, preflight]
  · exact ⟨id, fun _ => ⟨rfl, rfl⟩, if_neg hc⟩

/-- A posted body is served with the dispatcher's answer to it; only headers are added. -/
theorem serve_posted (h : Posted policy r) (methods : Rpc.MethodTable) (client : LedgerClient) :
    ∃ complete : Response → Response,
      (∀ response, (complete response).status = response.status ∧
        (complete response).body = response.body) ∧
      (serve room policy methods client r).value =
        servedAnswer complete (Rpc.handle room methods client (.bytes r.body)).value := by
  have post : r.method ≠ "OPTIONS" := by
    rw [h.method]
    decide
  obtain ⟨complete, same, served⟩ :=
    serve_eq_serveWith (preflight?_eq_none post) h.origins methods client
  exact ⟨complete, same, by rw [served, serveWith_posted h]⟩

theorem noContent_iff (h : Posted policy r) (methods : Rpc.MethodTable) (client : LedgerClient) :
    NoContent (serve room policy methods client r).value ↔
      (Rpc.handle room methods client (.bytes r.body)).value = .ok none := by
  obtain ⟨complete, same, hs⟩ := serve_posted h methods client
  rw [hs]
  cases (Rpc.handle room methods client (.bytes r.body)).value with
  | error fault => simp [NoContent, servedAnswer, brokenDown, Response.ofPlain, Response.ofText]
  | ok answer =>
    cases answer with
    | none => simp [NoContent, servedAnswer, same]
    | some text =>
      simp [NoContent, servedAnswer, same, Response.ofJson, Response.ofText]

end LedgerGateway.Http

/-! ## The dispatcher and the gateway together -/

namespace LedgerGateway.Rpc

variable {methods : MethodTable} {client : LedgerClient}

/-- Every request is answered as it is owed, alone, in a batch, and over HTTP, as far as the answer
can be written. -/
structure OneResponseEach (methods : MethodTable) (client : LedgerClient) : Prop where
  single : ∀ (room : Json.Room) body v, body.Spells room.depth v → (∀ items, v ≠ .array items) →
    ∃ response, Gets v response ∧
      (handle room methods client body).value = writtenAnswer room.depth response
  batch : ∀ (room : Json.Room) body requests, body.Spells room.depth (.array requests) →
    requests ≠ [] → ∃ responses, List.Forall₂ Gets requests responses ∧
      (handle room methods client body).value =
        writtenAnswer room.depth (arrayOf responses.reduceOption)
  empty : ∀ (room : Json.Room) body, body.Spells room.depth (.array []) →
    ∃ message, (handle room methods client body).value = .ok (some (errorText ⟨-32600, message⟩))
  silent : ∀ (room : Json.Room) body, (handle room methods client body).value = .ok none ↔
    ∃ v, body.Spells room.depth v ∧ AllSilent v
  posted : ∀ (room : Json.Room) policy r, Http.Posted policy r →
    (Http.NoContent (Http.serve room policy methods client r).value ↔
      ∃ v, (Body.bytes r.body).Spells room.depth v ∧ AllSilent v)

/-- A table of plain methods gives each request the one response it is owed. -/
theorem one_response_each (h : methods.Plain client) : OneResponseEach methods client := by
  constructor
  · intro room body v spelt hv
    obtain ⟨response, yields, gets⟩ := exists_yields h v
    refine ⟨response, gets, ?_⟩
    rw [handle_of_spells spelt, (handleValue_single hv).1, yields.answerTo_eq]
  · intro room body requests spelt hne
    obtain ⟨responses, yields, gets⟩ := exists_yields_each h requests
    exact ⟨responses, gets, by rw [handle_of_spells spelt, handleValue_batch hne yields]⟩
  · intro room body spelt
    exact ⟨"Empty batch", by rw [handle_of_spells spelt]; rfl⟩
  · intro room body
    exact handle_eq_none_iff h
  · intro room policy r hp
    rw [Http.noContent_iff hp]
    exact handle_eq_none_iff h

theorem one_response_each_account :
    accountTable.Plain Ledger.fresh.client ∧ OneResponseEach accountTable Ledger.fresh.client :=
  ⟨accountTable_plain Ledger.fresh.ordinary_client,
    one_response_each (accountTable_plain Ledger.fresh.ordinary_client)⟩

/-- A request that is no batch is answered with the text of the one response that it is owed, or
with nothing if it is owed none. -/
def AnsweredAsOwed (room : Json.Room) (methods : MethodTable) (client : LedgerClient) (v : Json) :
    Prop :=
  ∃ response, Gets v response ∧
    (handle room methods client (.value v)).value = .ok (response.map (Json.write .spaced))

/-- A table of one method, which always ends in the same way without a reply. -/
def failingTable (fault : MethodFault) : MethodTable := [("b", fun _ _ => pure (.error fault))]

/-- What is thrown where a code is to be an integer and is the text `abc`. -/
def noInteger : Thrown := ⟨"ValueError", "invalid literal for int() with base 10: 'abc'"⟩

/-- What is thrown into a method whose call is cancelled. -/
def cancellation : Interruption := ⟨⟨"CancelledError", ""⟩, false⟩

/-- A request whose method throws an error without a proper code, or is interrupted, is not answered
at all. -/
theorem not_answered_as_owed_noCode_or_interrupted :
    ¬ AnsweredAsOwed .thousand (failingTable (.noCode noInteger)) Ledger.fresh.client
        (requestFor "b" .null (.int 1)) ∧
      ¬ AnsweredAsOwed .thousand (failingTable (.interrupted cancellation))
        Ledger.fresh.client (requestFor "b" .null (.int 1)) := by
  constructor
  · rintro ⟨response, -, answered⟩
    exact absurd (show Except.error (ServeFault.noCode noInteger) = _ from answered) (by simp)
  · rintro ⟨response, -, answered⟩
    exact absurd (show Except.error (ServeFault.interrupted cancellation) = _ from answered)
      (by simp)

end LedgerGateway.Rpc
