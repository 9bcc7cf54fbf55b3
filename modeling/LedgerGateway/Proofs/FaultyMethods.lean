import LedgerGateway.Proofs.SideBySide

/-!
# Methods that misbehave

A method that breaks down costs its own request an answer with the error -32603 and nothing else.
But there are endings that no answer can be made of: the method is interrupted, what it refuses the
request with is no proper error, or what it replies with cannot be written. This shows only when the
responses are written, all at once, and no request of the body is answered then.

* `not_spoils_iff` — which requests have something said in answer that can be written.
* `yields_of_misbehaves` — what answers a request whose method breaks down.
* `contained_iff` — a body suffers no harm exactly if no request of it spoils its answer.
-/

namespace LedgerGateway.Rpc

open Decimal (digitLimit)

section Endings

variable (methods : MethodTable) (client : LedgerClient)

/-- The request calls a method of the table, and this is how the method ends. -/
def Ends (v : Json) (ending : Except MethodFault Reply) : Prop :=
  ∃ name m, Asks v name ∧ methods.find? name = some m ∧ (m (carriedParams v) client).value = ending

/-- The method that the request calls breaks down, is interrupted or replies with something that
cannot be written, not even alone. -/
inductive Misbehaves (room : Json.Room) (v : Json) : Prop where
  | crashed (c : Crash) : Ends methods client v (.error (.crashed c)) → Misbehaves room v
  | interrupted (i : Interruption) : Ends methods client v (.error (.interrupted i)) →
      Misbehaves room v
  | unwritable (reply : Reply) : Ends methods client v (.ok reply) →
      (∀ w, reply.written room.depth ≠ .ok w) → Misbehaves room v

/-- No answer can be made of how the method ends that the request calls, or what is said in answer
cannot be written down to a depth. -/
inductive Spoils (depth : Nat) (v : Json) : Prop where
  | interrupted (i : Interruption) : Ends methods client v (.error (.interrupted i)) →
      Spoils depth v
  | noCode (thrown : Thrown) : ¬ Silent v → Ends methods client v (.error (.noCode thrown)) →
      Spoils depth v
  | noText (code : Int) (kind : String) : ¬ Silent v →
      Ends methods client v (.error (.noText code (.unencodable kind))) → Spoils depth v
  | unencodable (kind : String) : ¬ Silent v → Ends methods client v (.ok (.unencodable kind)) →
      Spoils depth v
  | unwritable (w : Json) : Yields methods client v (some w) → ¬ w.Fits digitLimit depth →
      Spoils depth v

end Endings

variable {methods : MethodTable} {client : LedgerClient} {room : Json.Room} {depth : Nat}
  {body : Body}

section Ends

variable {v : Json} {ending : Except MethodFault Reply}

/-- Whoever waits for the end of a method is told what becomes of it. -/
theorem handleSingle_of_ends (h : Ends methods client v ending) (owed : ¬ Silent v) :
    (handleSingle methods client v).value = (respond (carriedId v) ending).map some := by
  obtain ⟨name, m, asks, found, rfl⟩ := h
  obtain ⟨-, -, answered⟩ := handleSingle_of_asks methods client asks
  rw [answered owed, call_of_found found]

theorem handleSingle_of_ends_silent (h : Ends methods client v ending) (silent : Silent v) :
    (handleSingle methods client v).value = dropped ending := by
  obtain ⟨name, m, asks, found, rfl⟩ := h
  obtain ⟨-, dropped, -⟩ := handleSingle_of_asks methods client asks
  rw [dropped silent, call_of_found found]

theorem yields_of_ends {member : String × Json} (h : Ends methods client v ending)
    (owed : ¬ Silent v) (told : EndsIn ending member) :
    Yields methods client v (some (members (carriedId v) member)) := by
  obtain ⟨r, responded, said⟩ := told.respond_eq (carriedId v)
  refine .response ?_ said
  rw [handleSingle_of_ends h owed, responded]
  rfl

/-- What says something was owed. -/
theorem Yields.owed {w : Json} (h : Yields methods client v (some w)) : ¬ Silent v := by
  cases h with
  | response some_ _ => exact (handleSingle_response methods client some_).1

/-- Nothing is said in answer by a response that says nothing. -/
theorem not_yields_of_unsaid {r : Response}
    (some_ : (handleSingle methods client v).value = .ok (some r))
    (unsaid : ∀ w, ¬ r.Says w) {response : Option Json} : ¬ Yields methods client v response := by
  intro yields
  cases yields with
  | nothing none_ => exact absurd (none_.symm.trans some_) (by simp)
  | response some_' said =>
    obtain rfl := Option.some.inj (Except.ok.inj (some_.symm.trans some_'))
    exact unsaid _ said

/-- How a method ends that a request calls tells what is said in answer, or there is nothing to
say. -/
theorem yields_or_spoils_of_ends (h : Ends methods client v ending) :
    (∃ response, Yields methods client v response) ∨ Spoils methods client depth v := by
  by_cases silent : Silent v
  · -- Nobody waits, so only an interruption counts.
    have dropped := handleSingle_of_ends_silent h silent
    cases ending with
    | ok reply => exact .inl ⟨none, .nothing dropped⟩
    | error fault =>
      cases fault with
      | interrupted i => exact .inr (.interrupted i h)
      | _ => exact .inl ⟨none, .nothing dropped⟩
  · cases ending with
    | ok reply =>
      cases reply with
      | value w => exact .inl ⟨_, yields_of_ends h silent (.value w)⟩
      | unencodable kind => exact .inr (.unencodable kind silent h)
    | error fault =>
      cases fault with
      | refused e => exact .inl ⟨_, yields_of_ends h silent (.refused e)⟩
      | crashed c => exact .inl ⟨_, yields_of_ends h silent (.crashed c)⟩
      | noCode thrown => exact .inr (.noCode thrown silent h)
      | interrupted i => exact .inr (.interrupted i h)
      | noText code message =>
        cases message with
        | unencodable kind => exact .inr (.noText code kind silent h)
        | value w =>
          exact .inl ⟨_, .response (handleSingle_of_ends h silent) ⟨_, .refusal code w, rfl⟩⟩

end Ends

/-- A request that calls no method of the table is refused, unless nobody waits for an answer. -/
theorem yields_of_not_ends {v : Json} (h : ∀ ending, ¬ Ends methods client v ending)
    (owed : ¬ Silent v) :
    ∃ e : Error, Yields methods client v (some (members (carriedId v) ("error", e.toJson))) := by
  by_cases asks : ∃ name, Asks v name
  · obtain ⟨name, asks⟩ := asks
    cases found : methods.find? name with
    | none =>
      have ends : EndsIn (call methods client name (carriedParams v)).value
          ("error", (Error.methodNotFound name).toJson) := by
        rw [call_of_unknown found]
        exact .refused _
      exact ⟨_, yields_of_endsIn asks owed ends⟩
    | some m => exact absurd ⟨name, m, asks, found, rfl⟩ (h _)
  · exact ⟨_, yields_refused fun name h => asks ⟨name, h⟩⟩

theorem yields_none_of_not_ends {v : Json} (h : ∀ ending, ¬ Ends methods client v ending)
    (silent : Silent v) : Yields methods client v none := by
  obtain ⟨name, asks⟩ := silent.asks
  obtain ⟨-, dropped, -⟩ := handleSingle_of_asks methods client asks
  cases found : methods.find? name with
  | none => exact .nothing (by rw [dropped silent, call_of_unknown found]; rfl)
  | some m => exact absurd ⟨name, m, asks, found, rfl⟩ (h _)

/-- What is said in answer to a request can be written exactly if the request does not spoil its
answer. -/
theorem not_spoils_iff {v : Json} :
    ¬ Spoils methods client depth v ↔
      ∃ response, Yields methods client v response ∧ ∀ w ∈ response, w.Fits digitLimit depth := by
  constructor
  · intro clean
    obtain ⟨response, yields⟩ : ∃ response, Yields methods client v response := by
      by_cases ends : ∃ ending, Ends methods client v ending
      · obtain ⟨ending, ends⟩ := ends
        exact (yields_or_spoils_of_ends ends).resolve_right clean
      · have calls : ∀ ending, ¬ Ends methods client v ending := fun ending h => ends ⟨ending, h⟩
        by_cases silent : Silent v
        · exact ⟨none, yields_none_of_not_ends calls silent⟩
        · obtain ⟨e, refused⟩ := yields_of_not_ends calls silent
          exact ⟨_, refused⟩
    refine ⟨response, yields, fun w mem => not_not.1 fun long => clean ?_⟩
    exact .unwritable w (Option.mem_def.1 mem ▸ yields) long
  · rintro ⟨response, yields, fits⟩ spoils
    obtain ⟨o, handled⟩ := yields.handled
    cases spoils with
    | interrupted i ends =>
      by_cases silent : Silent v
      · have own := (handleSingle_of_ends_silent ends silent).symm.trans handled
        exact absurd own (by simp [dropped])
      · exact absurd ((handleSingle_of_ends ends silent).symm.trans handled)
          (by simp [respond, Except.map])
    | noCode thrown owed ends =>
      exact absurd ((handleSingle_of_ends ends owed).symm.trans handled)
        (by simp [respond, Except.map])
    | noText code kind owed ends =>
      have unsaid := not_yields_of_unsaid (handleSingle_of_ends ends owed)
      exact unsaid (fun w => by rintro ⟨_, ⟨⟩, -⟩) yields
    | unencodable kind owed ends =>
      have unsaid := not_yields_of_unsaid (handleSingle_of_ends ends owed)
      exact unsaid (fun w => by rintro ⟨_, ⟨⟩, -⟩) yields
    | unwritable w said long =>
      obtain rfl := yields.unique said
      exact long (fits w rfl)

/-- A request whose method misbehaves is answered with an internal error under its own id, if it is
answered at all. -/
theorem yields_of_misbehaves {v : Json} (h : Misbehaves methods client room v) (owed : ¬ Silent v)
    (within : depth ≤ room.depth) (clean : ¬ Spoils methods client depth v) :
    Yields methods client v (some (members (carriedId v) ("error", Error.internal.toJson))) := by
  cases h with
  | crashed c ends => exact yields_of_ends ends owed (.crashed c)
  | interrupted i ends => exact absurd (.interrupted i ends) clean
  | unwritable reply ends unwritten =>
    cases reply with
    | unencodable kind => exact absurd (.unencodable kind owed ends) clean
    | value w =>
      -- The reply lies inside of what is said, so it could be written as well.
      have yields := yields_of_ends ends owed (.value w)
      refine absurd (.unwritable _ yields fun fits => unwritten w ?_) clean
      cases depth with
      | zero => cases fits
      | succ depth =>
        have reply := Json.fits_object_iff.1 fits ("result", w) (by simp)
        exact writtenValue_eq_ok_iff.2
          ⟨reply.mono (Nat.le_refl _) (Nat.le_of_succ_le within), rfl⟩

/-! ## Containment -/

/-- The text that is owed to a request, if one is: an internal error under its id if its method
misbehaves and somebody waits, and otherwise what answers the request alone. -/
inductive Shielded (room : Json.Room) (methods : MethodTable) (client : LedgerClient) (v : Json) :
    Option String → Prop where
  | struck : ¬ Silent v → Misbehaves methods client room v →
      Shielded room methods client v
        (some (Json.write .spaced (members (carriedId v) ("error", Error.internal.toJson))))
  | spared {text} : Silent v ∨ ¬ Misbehaves methods client room v →
      (∀ alone : Json → Body, (alone v).Spells room.depth v →
        AnsweredAlone room methods client alone v text) →
      Shielded room methods client v text

/-- A misbehaving method harms no request but its own, in a body that is an object or a batch. -/
structure Contained (room : Json.Room) (methods : MethodTable) (client : LedgerClient)
    (body : Body) : Prop where
  single : ∀ ms, body.Spells room.depth (.object ms) →
    ∃ text, Shielded room methods client (.object ms) text ∧
      (handle room methods client body).value = .ok text
  batch : ∀ requests, body.Spells room.depth (.array requests) → requests ≠ [] →
    ∃ texts, List.Forall₂ (Shielded room methods client) requests texts ∧
      (handle room methods client body).value = .ok (joined texts)

/-- What is said in answer to a request that spoils nothing is what is owed to it. -/
theorem shielded_of_yields {v : Json} {response : Option Json} (within : depth ≤ room.depth)
    (yields : Yields methods client v response) (fits : ∀ w ∈ response, w.Fits digitLimit depth) :
    Shielded room methods client v (response.map (Json.write .spaced)) := by
  have clean : ¬ Spoils methods client depth v := not_spoils_iff.2 ⟨response, yields, fits⟩
  by_cases struck : ¬ Silent v ∧ Misbehaves methods client room v
  · obtain ⟨owed, misbehaves⟩ := struck
    obtain rfl := yields.unique (yields_of_misbehaves misbehaves owed within clean)
    exact .struck owed misbehaves
  · have spared : Silent v ∨ ¬ Misbehaves methods client room v := by
      by_cases silent : Silent v
      · exact .inl silent
      · exact .inr fun misbehaves => struck ⟨silent, misbehaves⟩
    refine .spared spared fun alone spelt => ?_
    rw [answeredAlone_iff spelt, yields.answerTo_eq, writtenAnswer_eq_ok_iff]
    exact ⟨fun w mem => (fits w mem).mono (Nat.le_refl _) within, rfl⟩

/-- A request that is no batch is answered exactly if it does not spoil its answer. -/
theorem answerTo_eq_ok_iff {v : Json} {text : Option String} :
    answerTo depth methods client v = .ok text ↔
      ∃ response, Yields methods client v response ∧ (∀ w ∈ response, w.Fits digitLimit depth) ∧
        text = response.map (Json.write .spaced) := by
  constructor
  · intro answered
    cases handled : (handleSingle methods client v).value with
    | error fault => simp [answerTo, handled] at answered
    | ok o =>
      cases o with
      | none =>
        refine ⟨none, .nothing handled, by simp, ?_⟩
        simpa [answerTo, handled, eq_comm] using answered
      | some r =>
        rw [answerTo, handled] at answered
        cases encoded : encodeOne depth r with
        | error fault => simp [encoded, Except.map] at answered
        | ok s =>
          obtain ⟨w, said, fits, rfl⟩ := encodeOne_eq_ok_iff.1 encoded
          refine ⟨some w, .response handled said, by simpa using fits, ?_⟩
          simpa [encoded, Except.map, eq_comm] using answered
  · rintro ⟨response, yields, fits, rfl⟩
    rw [yields.answerTo_eq, writtenAnswer_eq_ok_iff]
    exact ⟨fits, rfl⟩

/-- **When a body suffers from its methods.** It does exactly if a request of it spoils its answer,
which has room one step further in where the request is one of a batch. -/
theorem contained_iff (room : Json.Room) (methods : MethodTable) (client : LedgerClient)
    (body : Body) :
    Contained room methods client body ↔
      (∀ ms, body.Spells room.depth (.object ms) →
        ¬ Spoils methods client room.depth (.object ms)) ∧
      ∀ requests, body.Spells room.depth (.array requests) → ∀ e ∈ requests,
        ¬ Spoils methods client (room.depth - 1) e := by
  constructor
  · intro contained
    refine ⟨fun ms spelt => ?_, fun requests spelt e mem => ?_⟩
    · obtain ⟨text, -, answered⟩ := contained.single ms spelt
      rw [handle_of_spells spelt, (handleValue_single (by simp)).1] at answered
      obtain ⟨response, yields, fits, -⟩ := answerTo_eq_ok_iff.1 answered
      exact not_spoils_iff.2 ⟨response, yields, fits⟩
    · obtain ⟨texts, -, answered⟩ := contained.batch requests spelt (List.ne_nil_of_mem mem)
      rw [handle_of_spells spelt] at answered
      obtain ⟨responses, yields, written⟩ :=
        (handleValue_batch_eq_ok_iff (List.ne_nil_of_mem mem)).1 answered
      have fits := (fits_arrayOf_iff room).1 (writtenAnswer_eq_ok_iff.1 written).1
      obtain ⟨response, there, own⟩ := exists_of_mem_left yields mem
      exact not_spoils_iff.2 ⟨response, own, fits response there⟩
  · rintro ⟨single, batch⟩
    refine ⟨fun ms spelt => ?_, fun requests spelt nonempty => ?_⟩
    · obtain ⟨response, yields, fits⟩ := not_spoils_iff.1 (single ms spelt)
      refine ⟨_, shielded_of_yields (Nat.le_refl _) yields fits, ?_⟩
      rw [handle_of_spells spelt, (handleValue_single (by simp)).1]
      exact answerTo_eq_ok_iff.2 ⟨response, yields, fits, rfl⟩
    · obtain ⟨responses, each⟩ := exists_forall₂ fun e mem =>
        not_spoils_iff.1 (batch requests spelt e mem)
      refine ⟨responses.map (Option.map (Json.write .spaced)), ?_, ?_⟩
      · rw [List.forall₂_map_right_iff]
        exact each.imp fun e response own => shielded_of_yields (Nat.sub_le _ _) own.1 own.2
      · rw [handle_of_spells spelt, handleValue_batch nonempty (each.imp fun _ _ => And.left),
          joined_map_write, writtenAnswer_eq_ok_iff, fits_arrayOf_iff]
        refine ⟨fun response there => ?_, rfl⟩
        obtain ⟨e, -, own⟩ := exists_of_mem_right each there
        exact own.2

/-- A method that replies with bytes. -/
def bytesTable : MethodTable := [("b", fun _ _ => pure (.ok (.unencodable "bytes")))]

/-- A request for a method that there is not, and one for bytes. -/
def bytesBatch : List Json :=
  [.object [("id", .int 1), ("method", .string "eth_sign")],
    .object [("id", .int 2), ("method", .string "b")]]

/-- A reply of bytes leaves the whole batch without an answer. -/
theorem not_contained_bytes :
    ¬ Contained .thousand bytesTable Ledger.fresh.client
      (.text (Json.write .compact (.array bytesBatch))) := by
  have spelt : (Body.text (Json.write .compact (.array bytesBatch))).Spells 1000
      (.array bytesBatch) := (Body.read_eq_ok_iff _).1 (by cbv)
  intro contained
  obtain ⟨texts, -, answered⟩ := contained.batch bytesBatch spelt (List.cons_ne_nil _ _)
  rw [handle_of_spells spelt] at answered
  exact absurd (show Except.error (ServeFault.unwritten (.unencodable "bytes")) = _ from answered)
    (by simp)

end LedgerGateway.Rpc
