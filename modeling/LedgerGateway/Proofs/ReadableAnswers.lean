import LedgerGateway.Proofs.FaultyMethods
import LedgerGateway.Proofs.JsonStrictness
import LedgerGateway.Proofs.OneResponse
import LedgerGateway.Proofs.PairedHalves

/-!
# Answers that a strict client reads

An id is carried back as it was read, and what is read may be a number that no strict text can
hold: an infinity, which is also what a number becomes that is too large, or no number at all.
Nothing else in an answer can be of that kind where the methods reply without floating point
numbers. So an answer is JSON of the strict grammar, with every id the one of its request, exactly
if the ids are finite.

* `replied_of_yields` — what a request is answered with.
* `answered_of_handleValue` — what the answer to a body is written from.
* `Answered.echoes` — the ids are found again.
* `legible_iff` — when a strict client reads an answer.
-/

namespace LedgerGateway.Rpc

open Json (WholeText StrictText strictWords writeChars)
open Decimal (Binary64)

/-! ## What a client is to find -/

/-- The values that the methods reply with, and what they refuse requests with, hold no floating
point numbers. -/
structure MethodTable.Floatless (methods : MethodTable) (client : LedgerClient) : Prop where
  replies : ∀ name m, methods.find? name = some m → ∀ params v,
    (m params client).value = .ok (.value v) → v.Floatless
  refusals : ∀ name m, methods.find? name = some m → ∀ params code message,
    (m params client).value = .error (.noText code (.value message)) → message.Floatless

/-- The requests of a value: its items, or itself if it is no array. -/
def requestsOf : Json → List Json
  | .array requests => requests
  | v => [v]

theorem requestsOf_single {v : Json} (h : ∀ items, v ≠ .array items) : requestsOf v = [v] := by
  cases v with
  | array items => exact absurd rfl (h items)
  | _ => rfl

/-- A request gets a response under the id that it carries; a notification gets none. -/
inductive Echoed (v : Json) : Option Json → Prop where
  | nothing : Silent v → Echoed v none
  | response {r} : ¬ Silent v → r.member? "id" = some (carriedId v) → Echoed v (some r)

/-- The responses in the value of an answer carry the ids of the requests in the value of a body; an
empty batch is answered under null. -/
inductive Echoes : Json → Json → Prop where
  | single {v r} : (∀ items, v ≠ .array items) → Echoed v (some r) → Echoes v r
  | empty {r} : r.member? "id" = some .null → Echoes (.array []) r
  | batch {requests responses} : requests ≠ [] → List.Forall₂ Echoed requests responses →
      Echoes (.array requests) (.array responses.reduceOption)

/-- The text is JSON of the strict grammar, and what it spells carries the ids of what the body
spells. -/
structure Legible (depth : Nat) (body : Body) (text : String) : Prop where
  strict : StrictText text.toList
  ids : ∀ v, body.Spells depth v → ∀ digits depth w,
    WholeText strictWords digits depth w text.toList → Echoes v w

variable {depth : Nat} {body : Body}

/-- Values that come as text or bytes have their numbers in lowest form and each name once. -/
theorem settled_of_spells {v : Json} (raw : ∀ w, body ≠ .value w) (h : body.Spells depth v) :
    v.Settled := by
  have read {text : List Char} (whole : WholeText Json.words Decimal.digitLimit depth v text) :
      v.Settled := by
    obtain ⟨g, s, g', -, spelt, -, -⟩ := whole
    exact spelt.settled fun _ => id
  cases body with
  | text s => exact read h
  | bytes b =>
    obtain ⟨text, -, whole⟩ := h
    exact read whole
  | value w => exact absurd rfl (raw w)

theorem Body.Spells.unique {v w : Json} (h : body.Spells depth v) (h' : body.Spells depth w) :
    v = w :=
  Except.ok.inj ((body.read_eq_ok_iff.2 h).symm.trans (body.read_eq_ok_iff.2 h'))

theorem settled_carriedId {v : Json} (h : v.Settled) : (carriedId v).Settled := by
  cases h with
  | @object ms _ members =>
    show ((ms.lookup "id").getD .null).Settled
    cases found : ms.lookup "id" with
    | none => exact .null
    | some id => exact members ("id", id) (Association.mem_of_lookup found)
  | null | bool | int | float | string | array => exact .null

theorem settled_request {v e : Json} (h : v.Settled) (mem : e ∈ requestsOf v) : e.Settled := by
  by_cases batch : ∃ items, v = .array items
  · obtain ⟨items, rfl⟩ := batch
    cases h with
    | array each => exact each e mem
  · rw [requestsOf_single fun items eq => batch ⟨items, eq⟩, List.mem_singleton] at mem
    exact mem ▸ h

/-! ## Responses -/

section Members

variable {id : Json} {ending : String × Json}

theorem floatless_error (e : Error) : e.toJson.Floatless := by
  refine .object trivial fun m mem => ?_
  simp only [List.mem_cons, List.not_mem_nil, or_false] at mem
  obtain rfl | rfl := mem
  · exact .int
  · exact .string

/-- Of the numbers in a response only those in its id matter. -/
theorem holds_members {float : Binary64 → Prop} (plain : ending.2.Floatless) :
    Json.Holds float (fun _ => True) (members id ending) ↔
      Json.Holds float (fun _ => True) id := by
  constructor
  · intro h
    cases h with
    | object _ each => exact each ("id", id) (by simp)
  · intro h
    refine .object trivial fun m mem => ?_
    simp only [List.mem_cons, List.not_mem_nil, or_false] at mem
    obtain rfl | rfl | rfl := mem
    · exact .string
    · exact h
    · exact plain.imp (fun _ => False.elim) fun _ => fun h => h

theorem floatless_failure (e : Error) : (members .null ("error", e.toJson)).Floatless := by
  have plain := floatless_error e
  exact (holds_members plain).2 .null

/-- The name of the last member of a response. -/
def IsLast (name : String) : Prop := name = "result" ∨ name = "error"

end Members

variable {methods : MethodTable} {client : LedgerClient} {room : Json.Room}

/-- The response that a request gets, if it gets one; what is told has no floating point numbers. -/
inductive Replied (v : Json) : Option Json → Prop where
  | nothing : Silent v → Replied v none
  | response {ending} : ¬ Silent v → IsLast ending.1 → ending.2.Floatless →
      Replied v (some (members (carriedId v) ending))

theorem replied_error {v : Json} (owed : ¬ Silent v) (e : Error) :
    Replied v (some (members (carriedId v) ("error", e.toJson))) :=
  .response owed (.inr rfl) (floatless_error e)

/-- What is said where a method is called was a reply of it, or what it refused the request with. -/
theorem replied_of_ends (plain : methods.Floatless client) {v : Json}
    {ending : Except MethodFault Reply}
    (ends : Ends methods client v ending) (owed : ¬ Silent v) {response : Option Json}
    (yields : Yields methods client v response) : Replied v response := by
  have handled := handleSingle_of_ends ends owed
  obtain ⟨name, m, -, found, value⟩ := id ends
  cases ending with
  | ok reply =>
    cases reply with
    | value w =>
      obtain rfl := yields.unique (yields_of_ends ends owed (.value w))
      exact .response owed (.inl rfl) (plain.replies name m found _ w value)
    | unencodable kind =>
      exact absurd yields (not_yields_of_unsaid handled fun w => by rintro ⟨_, ⟨⟩, -⟩)
  | error fault =>
    obtain ⟨o, fine⟩ := yields.handled
    cases fault with
    | refused e =>
      obtain rfl := yields.unique (yields_of_ends ends owed (.refused e))
      exact replied_error owed e
    | crashed c =>
      obtain rfl := yields.unique (yields_of_ends ends owed (.crashed c))
      exact replied_error owed .internal
    | noCode thrown => exact absurd (handled.symm.trans fine) (by simp [respond, Except.map])
    | interrupted i => exact absurd (handled.symm.trans fine) (by simp [respond, Except.map])
    | noText code message =>
      cases message with
      | unencodable kind =>
        exact absurd yields (not_yields_of_unsaid handled fun w => by rintro ⟨_, ⟨⟩, -⟩)
      | value w =>
        obtain rfl := yields.unique (.response handled ⟨_, .refusal code w, rfl⟩)
        refine .response owed (.inr rfl) (.object trivial fun member mem => ?_)
        simp only [List.mem_cons, List.not_mem_nil, or_false] at mem
        obtain rfl | rfl := mem
        · exact .int
        · exact plain.refusals name m found _ code w value

/-- What is said in answer to a request has no floating point numbers but in the id. -/
theorem replied_of_yields (plain : methods.Floatless client) {v : Json} {response : Option Json}
    (yields : Yields methods client v response) : Replied v response := by
  by_cases silent : Silent v
  · cases yields with
    | nothing _ => exact .nothing silent
    | response some_ _ => exact absurd silent (handleSingle_response methods client some_).1
  · by_cases calls : ∃ ending, Ends methods client v ending
    · obtain ⟨ending, ends⟩ := calls
      exact replied_of_ends plain ends silent yields
    · obtain ⟨e, refused⟩ := yields_of_not_ends (fun ending ends => calls ⟨ending, ends⟩) silent
      obtain rfl := yields.unique refused
      exact replied_error silent e

theorem Replied.allFinite_iff {e o : Json} (h : Replied e (some o)) :
    o.AllFinite ↔ (carriedId e).AllFinite := by
  cases h with
  | response _ _ plain => exact holds_members plain

theorem Replied.canonical {e o : Json} (settled : e.Settled) (h : Replied e (some o)) :
    o.Canonical := by
  cases h with
  | response _ _ plain => exact (holds_members plain).2 (settled_carriedId settled).canonical

/-- The value that the answer to a value is written from. -/
inductive Answered : Json → Json → Prop where
  | single {v o} : (∀ items, v ≠ .array items) → Replied v (some o) → Answered v o
  | empty (e : Error) : Answered (.array []) (members .null ("error", e.toJson))
  | batch {requests responses} : requests ≠ [] → List.Forall₂ Replied requests responses →
      Answered (.array requests) (.array responses.reduceOption)

/-- What the answer to a value is written from, and that there is room for it. -/
theorem answered_of_handleValue (plain : methods.Floatless client) {v : Json} {text : String}
    (h : (handleValue depth methods client v).value = .ok (some text)) :
    ∃ o, Answered v o ∧ text = Json.write .spaced o := by
  by_cases ha : ∃ items, v = .array items
  · obtain ⟨requests, rfl⟩ := ha
    by_cases nonempty : requests = []
    · subst nonempty
      have answer : (handleValue depth methods client (.array [])).value =
          .ok (some (errorText (.invalidRequest "Empty batch"))) := rfl
      rw [answer] at h
      exact ⟨_, .empty (.invalidRequest "Empty batch"), (Option.some.inj (Except.ok.inj h)).symm⟩
    · obtain ⟨responses, yields, written⟩ := (handleValue_batch_eq_ok_iff nonempty).1 h
      have replies := yields.imp fun _ _ => replied_of_yields plain
      have same := (writtenAnswer_eq_ok_iff.1 written).2
      rw [arrayOf] at same
      split at same
      · cases same
      · exact ⟨_, .batch nonempty replies, Option.some.inj same⟩
  · have single : ∀ items, v ≠ .array items := fun items he => ha ⟨items, he⟩
    rw [(handleValue_single single).1] at h
    obtain ⟨response, yields, -, eq⟩ := answerTo_eq_ok_iff.1 h
    have reply := replied_of_yields plain yields
    cases response with
    | none => cases eq
    | some o => exact ⟨o, .single single reply, Option.some.inj eq⟩

section Batches

variable {requests : List Json} {responses : List (Option Json)}

theorem allFinite_batch (h : List.Forall₂ Replied requests responses) :
    (∀ o ∈ responses.reduceOption, o.AllFinite) ↔ ∀ e ∈ requests, (carriedId e).AllFinite := by
  induction h with
  | nil => simp
  | cons reply _ ih =>
    rw [List.forall_mem_cons, ← ih]
    -- A notification adds no response, and its id is null.
    cases reply with
    | nothing silent =>
      rw [List.reduceOption_cons_of_none, silent.carriedId_eq]
      exact (and_iff_right .null).symm
    | response owed ends plain =>
      rw [List.reduceOption_cons_of_some, List.forall_mem_cons]
      exact and_congr_left' (holds_members plain)

theorem canonical_batch (settled : ∀ e ∈ requests, e.Settled)
    (h : List.Forall₂ Replied requests responses) :
    ∀ o ∈ responses.reduceOption, o.Canonical := by
  induction h with
  | nil => simp
  | @cons e response requests responses reply _ ih =>
    rw [List.forall_mem_cons] at settled
    obtain ⟨first, others⟩ := settled
    cases response with
    | none => exact ih others
    | some o =>
      rw [List.reduceOption_cons_of_some, List.forall_mem_cons]
      exact ⟨reply.canonical first, ih others⟩

end Batches

theorem Answered.allFinite_iff {v o : Json} (h : Answered v o) :
    o.AllFinite ↔ ∀ e ∈ requestsOf v, (carriedId e).AllFinite := by
  cases h with
  | single single reply =>
    rw [requestsOf_single single, List.forall_mem_singleton, reply.allFinite_iff]
  | empty e =>
    have finite := (floatless_failure e).allFinite
    exact ⟨fun _ e' mem => absurd mem (by simp [requestsOf]), fun _ => finite⟩
  | batch _ replies =>
    rw [requestsOf, ← allFinite_batch replies]
    constructor
    · intro h
      cases h with
      | array items => exact items
    · exact .array

theorem Answered.canonical {v o : Json} (settled : v.Settled) (h : Answered v o) :
    o.Canonical := by
  cases h with
  | single _ reply => exact reply.canonical settled
  | empty e => exact (floatless_failure e).canonical
  | batch _ replies =>
    exact .array (canonical_batch (fun _ mem => settled_request settled mem) replies)

theorem toList_write (o : Json) : (Json.write .spaced o).toList = writeChars .spaced o :=
  String.toList_ofList

/-- The id of a request that is not finite spoils the whole answer. -/
theorem Legible.finite {text : String} (legible : Legible room.depth body text)
    (plain : methods.Floatless client) (raw : ∀ v, body ≠ .value v)
    (answered : (handle room methods client body).value = .ok (some text)) {v : Json}
    (spelt : body.Spells room.depth v) : ∀ e ∈ requestsOf v, (carriedId e).AllFinite := by
  rw [handle_of_spells spelt] at answered
  obtain ⟨o, made, rfl⟩ := answered_of_handleValue plain answered
  have canonical := made.canonical (settled_of_spells raw spelt)
  have strict := legible.strict
  rw [toList_write, Json.strictText_write_iff Json.spaced_regular canonical] at strict
  exact made.allFinite_iff.1 strict

end LedgerGateway.Rpc
