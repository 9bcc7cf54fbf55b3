import LedgerGateway.Proofs.HiddenFailures
import LedgerGateway.Proofs.OneResponse
import LedgerGateway.Proofs.WireAnswers

/-!
# A notification is a request that nobody waits for

The id of a request is read where its response is made and nowhere before. Runs of requests that
differ in the id alone, or in whether there is one, call the same methods with the same parameters,
put the same queries to the ledger and write the same log. Their responses are one response under
different ids; without an id it is dropped, but an error in the form of the request is not.

* `SameButId.asks_iff`, `SameButId.refusal_eq` — requests that differ in their id ask alike.
* `handleEach_events_anyId`, `yields_anyId` — one course of events and one end for all ids.
* `noting_value` — to watch the calls of the methods changes no answer.
* `id_unread` — the runs of such requests against each other.
-/

namespace LedgerGateway.Rpc

/-! ## Requests that differ in their id -/

/-- The members with an id, in the place of the one that is there or behind all others. -/
def withId (id : Json) (ms : List (String × Json)) : List (String × Json) :=
  Association.put ms "id" id

/-- The members without an id. -/
def withoutId (ms : List (String × Json)) : List (String × Json) :=
  ms.filter fun m => m.1 ≠ "id"

/-- What becomes of the members of a request when its id is left, replaced or removed. -/
inductive SameButId (ms : List (String × Json)) : List (String × Json) → Prop where
  | left : SameButId ms ms
  | replaced (id : Json) : SameButId ms (withId id ms)
  | removed : SameButId ms (withoutId ms)

section SameButId

variable {ms ms' : List (String × Json)}

theorem carriedId_withId (id : Json) (ms : List (String × Json)) :
    carriedId (.object (withId id ms)) = id := by
  show ((Association.put ms "id" id).lookup "id").getD .null = id
  rw [Association.lookup_put]
  simp

theorem withoutId_cons (key : String) (v : Json) (rest : List (String × Json)) :
    withoutId ((key, v) :: rest) =
      if key = "id" then withoutId rest else (key, v) :: withoutId rest := by
  by_cases hk : key = "id" <;> simp [withoutId, hk]

theorem lookup_withoutId (ms : List (String × Json)) (name : String) :
    (withoutId ms).lookup name = if name = "id" then none else ms.lookup name := by
  induction ms with
  | nil => simp [withoutId]
  | cons head rest ih =>
    obtain ⟨key, v⟩ := head
    rw [withoutId_cons, List.lookup_cons]
    by_cases hk : key = "id"
    · -- The member goes; it was looked for only if that is the id.
      rw [if_pos hk, ih, hk]
      by_cases hn : name = "id"
      · simp [hn]
      · simp [beq_eq_false_iff_ne.2 hn]
    · rw [if_neg hk, List.lookup_cons, ih]
      by_cases hn : name = key
      · simp [hn, hk]
      · simp [beq_eq_false_iff_ne.2 hn]

theorem carriedId_withoutId (ms : List (String × Json)) :
    carriedId (.object (withoutId ms)) = .null := by
  show ((withoutId ms).lookup "id").getD .null = .null
  rw [lookup_withoutId]
  rfl

theorem SameButId.member?_eq (h : SameButId ms ms') {name : String} (other : name ≠ "id") :
    (Json.object ms').member? name = (Json.object ms).member? name := by
  cases h with
  | left => rfl
  | replaced id =>
    show (Association.put ms "id" id).lookup name = ms.lookup name
    rw [Association.lookup_put, if_neg other]
  | removed =>
    show (withoutId ms).lookup name = ms.lookup name
    rw [lookup_withoutId, if_neg other]

theorem SameButId.asks_iff (h : SameButId ms ms') {name : String} :
    Asks (.object ms') name ↔ Asks (.object ms) name := by
  have hv := h.member?_eq (by decide : "jsonrpc" ≠ "id")
  have hm := h.member?_eq (by decide : "method" ≠ "id")
  constructor
  · rintro ⟨version, method, named⟩
    exact ⟨hv ▸ version, hm ▸ method, named⟩
  · rintro ⟨version, method, named⟩
    exact ⟨hv.symm ▸ version, hm.symm ▸ method, named⟩

theorem SameButId.refusal_eq (h : SameButId ms ms') :
    refusal (.object ms') = refusal (.object ms) := by
  have hc : (Request.ofMembers ms').isCurrent = (Request.ofMembers ms).isCurrent := by
    rw [Bool.eq_iff_iff, isCurrent_ofMembers, isCurrent_ofMembers,
      h.member?_eq (by decide : "jsonrpc" ≠ "id")]
  simp only [refusal, hc]

theorem SameButId.carriedParams_eq (h : SameButId ms ms') :
    carriedParams (.object ms') = carriedParams (.object ms) := by
  rw [carriedParams, carriedParams, h.member?_eq (by decide : "params" ≠ "id")]

end SameButId

/-! ## One course for all ids -/

/-- Whether a batch goes on behind a request does not depend on whether anybody waits for it. -/
theorem isHalted_respond (id : Json) (ending : Except MethodFault Reply) :
    isHalted ((respond id ending).map some) = isHalted (dropped ending) := by
  rcases ending with (_ | _ | _ | _ | _) | reply <;> rfl

section Course

variable (methods : MethodTable) (client : LedgerClient) {ms ms' : List (String × Json)}

/-- Requests that differ in their id leave the same behind, and halt alike. -/
theorem handleSingle_anyId (h : SameButId ms ms') :
    (handleSingle methods client (.object ms')).events =
        (handleSingle methods client (.object ms)).events ∧
      isHalted (handleSingle methods client (.object ms')).value =
        isHalted (handleSingle methods client (.object ms)).value := by
  by_cases ha : ∃ name, Asks (.object ms) name
  · obtain ⟨name, asks⟩ := ha
    have halting {v : Json} (asks : Asks v name) :
        isHalted (handleSingle methods client v).value =
          isHalted (dropped (call methods client name (carriedParams v)).value) := by
      obtain ⟨-, dropped, answered⟩ := handleSingle_of_asks methods client asks
      by_cases silent : Silent v
      · rw [dropped silent]
      · rw [answered silent, isHalted_respond]
    have asks' := h.asks_iff.2 asks
    rw [halting asks', halting asks, (handleSingle_of_asks methods client asks').1,
      (handleSingle_of_asks methods client asks).1, h.carriedParams_eq]
    exact ⟨rfl, rfl⟩
  · have none_ : ∀ name, ¬ Asks (.object ms) name := fun name asks => ha ⟨name, asks⟩
    have none_' : ∀ name, ¬ Asks (.object ms') name := fun name asks =>
      ha ⟨name, h.asks_iff.1 asks⟩
    rw [handleSingle_refused methods client none_, handleSingle_refused methods client none_']
    exact ⟨rfl, rfl⟩

theorem handleEach_events_cons (e : Json) (rest : List Json) :
    (handleEach methods client (e :: rest)).events =
      (handleSingle methods client e).events ++
        if isHalted (handleSingle methods client e).value then []
        else (handleEach methods client rest).events := by
  simp only [handleEach, Traced.events_bind]
  split <;> simp

/-- Neither do batches that differ in such a request. -/
theorem handleEach_events_anyId (h : SameButId ms ms') (before behind : List Json) :
    (handleEach methods client (before ++ .object ms' :: behind)).events =
      (handleEach methods client (before ++ .object ms :: behind)).events := by
  obtain ⟨events, halted⟩ := handleSingle_anyId methods client h
  induction before with
  | nil =>
    rw [List.nil_append, List.nil_append, handleEach_events_cons, handleEach_events_cons, events,
      halted]
  | cons e before ih =>
    rw [List.cons_append, List.cons_append, handleEach_events_cons, handleEach_events_cons, ih]

end Course

/-- With plain methods requests that differ in their id come to one end. -/
theorem yields_anyId {methods : MethodTable} {client : LedgerClient} (h : methods.Plain client)
    (ms : List (String × Json)) :
    ∃ ending, Ending ending ∧ ∀ ms', SameButId ms ms' → ¬ Silent (.object ms') →
      Yields methods client (.object ms') (some (members (carriedId (.object ms')) ending)) := by
  by_cases ha : ∃ name, Asks (.object ms) name
  · obtain ⟨name, asks⟩ := ha
    obtain ⟨member, ends⟩ := h.call name (carriedParams (.object ms))
    refine ⟨member, ends.regular, fun ms' same owed => ?_⟩
    rw [← same.carriedParams_eq] at ends
    exact yields_of_endsIn (same.asks_iff.2 asks) owed ends
  · refine ⟨_, ending_error (.invalidRequest (refusal (.object ms))), fun ms' same _ => ?_⟩
    rw [← same.refusal_eq]
    exact yields_refused fun name asks => ha ⟨name, same.asks_iff.1 asks⟩

/-! ## The calls of the methods -/

/-- The methods with a note of each call, of the name and of the parameters, in front of what the
call leaves behind. -/
def MethodTable.noting (note : String → Json → List Event) (methods : MethodTable) : MethodTable :=
  methods.map fun (name, m) =>
    (name, fun params client => ⟨(m params client).value, note name params ++
      (m params client).events⟩)

variable {methods : MethodTable} {client : LedgerClient}

theorem find?_noting (note : String → Json → List Event) (methods : MethodTable) (name : String) :
    (methods.noting note).find? name = (methods.find? name).map fun m params client =>
      ⟨(m params client).value, note name params ++ (m params client).events⟩ := by
  induction methods with
  | nil => rfl
  | cons head rest ih =>
    obtain ⟨key, m⟩ := head
    simp only [MethodTable.find?, MethodTable.noting, List.map_cons, List.lookup_cons] at ih ⊢
    by_cases hn : name = key
    · simp [hn]
    · simpa [beq_eq_false_iff_ne.2 hn] using ih

/-- To note the calls changes no answer. -/
theorem noting_value (note : String → Json → List Event) (room : Json.Room) (body : Body) :
    (handle room (methods.noting note) client body).value =
      (handle room methods client body).value := by
  refine handle_congr (fun name => ?_) room body
  rw [find?_noting]
  cases methods.find? name with
  | none => exact .none
  | some m => exact .some fun params => .same _

/-! ## Two runs -/

/-- Bodies that spell the one value or the other leave behind the same: the same queries to the
ledger and the same log, in the same order. -/
def SameTrace (methods : MethodTable) (client : LedgerClient) (v v' : Json) : Prop :=
  ∀ {room room' : Json.Room} {body body'}, body.Spells room.depth v → body'.Spells room'.depth v' →
    (handle room' methods client body').events = (handle room methods client body).events

theorem sameTrace_single {ms ms' : List (String × Json)} (h : SameButId ms ms') :
    SameTrace methods client (.object ms) (.object ms') := by
  intro room room' body body' spelt spelt'
  rw [handle_of_spells spelt, handle_of_spells spelt', (handleValue_single (by simp)).2,
    (handleValue_single (by simp)).2, (handleSingle_anyId methods client h).1]

/-- The same holds in a batch, whatever stands before and behind the request. -/
theorem sameTrace_batch {ms ms' : List (String × Json)} (h : SameButId ms ms')
    (before behind : List Json) :
    SameTrace methods client (.array (before ++ .object ms :: behind))
      (.array (before ++ .object ms' :: behind)) := by
  intro room room' body body' spelt spelt'
  rw [handle_of_spells spelt, handle_of_spells spelt', (handleValue_array (by simp)).2,
    (handleValue_array (by simp)).2, handleEach_events_anyId methods client h]

/-- The answer to a body does not depend on the id of its request but for showing it, as far as the
answer can be written. -/
structure IdUnread (methods : MethodTable) (client : LedgerClient) (ms : List (String × Json)) :
    Prop where
  /-- Queries to the ledger and the log are the same. -/
  execution : ∀ ms', SameButId ms ms' → SameTrace methods client (.object ms) (.object ms')
  /-- So are the calls of the methods among them, in whatever way these are noted. -/
  calls : ∀ note ms', SameButId ms ms' →
    SameTrace (methods.noting note) client (.object ms) (.object ms')
  /-- Both hold too where the request is one of a batch. -/
  batched : ∀ before behind ms', SameButId ms ms' → ∀ note,
    SameTrace (methods.noting note) client (.array (before ++ .object ms :: behind))
      (.array (before ++ .object ms' :: behind))
  /-- The responses to two ids are the same but for the id. -/
  responses : ∃ ending, Ending ending ∧ ∀ ms', SameButId ms ms' →
    carriedId (.object ms') ≠ .null → ∀ {room : Json.Room} {body},
      body.Spells room.depth (.object ms') → (handle room methods client body).value =
        writtenAnswer room.depth (some (members (carriedId (.object ms')) ending))
  /-- Without an id there is no response exactly if a method is asked for. -/
  dropped : ∀ {room : Json.Room} {body}, body.Spells room.depth (.object (withoutId ms)) →
    ((handle room methods client body).value = .ok none ↔ ∃ name, Asks (.object ms) name)
  /-- Else the same error is told under any id, and under null without one. -/
  refused : (¬ ∃ name, Asks (.object ms) name) → ∃ e : Error, ∀ ms', SameButId ms ms' →
    ∀ {room : Json.Room} {body}, body.Spells room.depth (.object ms') →
      (handle room methods client body).value =
        writtenAnswer room.depth (some (members (carriedId (.object ms')) ("error", e.toJson)))

/-- What is said in answer to the one request of a body is what is written. -/
theorem Yields.handle_written {ms : List (String × Json)} {response : Option Json}
    (yields : Yields methods client (.object ms) response) {room : Json.Room} {body : Body}
    (spelt : body.Spells room.depth (.object ms)) :
    (handle room methods client body).value = writtenAnswer room.depth response := by
  rw [handle_of_spells spelt, (handleValue_single (by simp)).1, yields.answerTo_eq]

/-- No run of a request reads its id, if the methods are plain. -/
theorem id_unread (h : methods.Plain client) (ms : List (String × Json)) :
    IdUnread methods client ms := by
  constructor
  · intro ms' same
    exact sameTrace_single same
  · intro note ms' same
    exact sameTrace_single same
  · intro before behind ms' same note
    exact sameTrace_batch same before behind
  · obtain ⟨ending, regular, yields⟩ := yields_anyId h ms
    refine ⟨ending, regular, fun ms' same hid room body spelt => ?_⟩
    have owed : ¬ Silent (.object ms') := fun silent => hid silent.carriedId_eq
    exact (yields ms' same owed).handle_written spelt
  · intro room body spelt
    rw [handle_of_spells spelt, (handleValue_single (by simp)).1, answerTo_eq_none_iff h]
    constructor
    · rintro ⟨⟨name, asks⟩, -⟩
      exact ⟨name, SameButId.removed.asks_iff.1 asks⟩
    · rintro ⟨name, asks⟩
      exact (silent_iff (SameButId.removed.asks_iff.2 asks)).2 (carriedId_withoutId ms)
  · intro none_
    refine ⟨.invalidRequest (refusal (.object ms)), fun ms' same room body spelt => ?_⟩
    have none' : ∀ name, ¬ Asks (.object ms') name := fun name asks =>
      none_ ⟨name, same.asks_iff.1 asks⟩
    rw [← same.refusal_eq]
    exact (yields_refused none').handle_written spelt

/-- The members of a request for a balance. -/
def balanceMembers : List (String × Json) :=
  [("id", .int 1), ("method", .string "eth_getBalance"), ("params", .array [])]

/-- A balance asked for with an id, with another one, and without. -/
theorem id_unread_balance :
    accountTable.Plain Ledger.fresh.client ∧
      IdUnread accountTable Ledger.fresh.client balanceMembers :=
  ⟨accountTable_plain Ledger.fresh.ordinary_client,
    id_unread (accountTable_plain Ledger.fresh.ordinary_client) _⟩

/-- The answers under two ids to the same members are the same but for the id. -/
def AnsweredAlike (room : Json.Room) (methods : MethodTable) (client : LedgerClient)
    (ms : List (String × Json)) (id id' : Json) : Prop :=
  ∃ ending,
    (handle room methods client (.value (.object (withId id ms)))).value =
      .ok (some (Json.write .spaced (members id ending))) ∧
    (handle room methods client (.value (.object (withId id' ms)))).value =
      .ok (some (Json.write .spaced (members id' ending)))

/-- An id that lies too deep is not answered, though the same request is under another id; under no
id is answered whose method throws an error without a proper code; and a notification of a method
that is interrupted is not dropped. -/
theorem not_id_unread_deep_or_noCode_or_interrupted :
    ¬ AnsweredAlike .thousand accountTable Ledger.fresh.client balanceMembers (.int 1)
        (Json.nested 1000) ∧
      ¬ AnsweredAlike .thousand (failingTable (.noCode noInteger)) Ledger.fresh.client
        [("method", .string "b")] (.int 1) (.int 2) ∧
      (handle .thousand (failingTable (.interrupted cancellation)) Ledger.fresh.client
        (.value (requestFor "b" .null .null))).value ≠ .ok none := by
  refine ⟨?_, ?_, ?_⟩
  · rintro ⟨ending, -, answered⟩
    obtain ⟨_, regular, yields⟩ :=
      yields_anyId (accountTable_plain Ledger.fresh.ordinary_client) balanceMembers
    have deep : carriedId (.object (withId (Json.nested 1000) balanceMembers)) = Json.nested 1000 :=
      carriedId_withId _ _
    have owed : ¬ Silent (.object (withId (Json.nested 1000) balanceMembers)) := fun silent =>
      absurd (deep.symm.trans silent.carriedId_eq) (by rw [Json.nested]; simp)
    have spelt : (Body.value (.object (withId (Json.nested 1000) balanceMembers))).Spells
        Json.Room.thousand.depth _ := rfl
    rw [(yields _ (.replaced _) owed).handle_written spelt] at answered
    have fits := (writtenAnswer_eq_ok_iff.1 answered).1 _ rfl
    have id := @Json.fits_object_iff _ 999 _ |>.1 fits ("id", _)
      (List.mem_cons_of_mem _ (List.mem_cons_self ..))
    rw [deep] at id
    exact absurd (Json.fits_nested_iff.1 id) (by decide)
  · rintro ⟨ending, answered, -⟩
    exact absurd (show Except.error (ServeFault.noCode noInteger) = _ from answered) (by simp)
  · intro dropped
    exact absurd (show Except.error (ServeFault.interrupted cancellation) = _ from dropped) (by simp)

end LedgerGateway.Rpc
