import LedgerGateway.Proofs.OneResponse
import LedgerGateway.Rpc.Gathering
import Mathlib

/-!
# A batch is the ordered collection of its requests

However the requests of a batch are interleaved, each response ends up where its request stands. So
the answer is the one that handling them one after another gives, and it is made of the answers that
the requests get alone. Requests that never wait also leave their log in the order of the batch.

* `Step.promised_eq`, `promised_run` — a step, and so a run, changes no response that is to come.
* `run_finishes` — every run can be brought to its end.
* `events_of_neverWaits` — what requests leave behind that never wait.
* `ordered_batch` — a batch against its requests alone.
-/

namespace LedgerGateway.Rpc

open Relation (ReflTransGen)

/-! ## Runs -/

namespace Place

/-- The response that is there or is to come. -/
def promised : Place → Option Response
  | .waiting later => later.whole.value
  | .answered response => response

/-- How many more times the request has to go on. -/
def left : Place → Nat
  | .waiting later => go later
  | .answered _ => 0
where
  go : Activity → Nat
    | .ends _ _ => 1
    | .waits _ later => go later + 1

end Place

theorem promised_reached (a : Activity) : a.reached.promised = a.whole.value := by
  cases a <;> rfl

theorem left_reached (a : Activity) : a.reached.left + 1 = Place.left.go a := by
  cases a <;> rfl

namespace Flight

variable {f g : Flight}

/-- The responses that are there or to come, in the order of the requests. -/
def promised (f : Flight) : List (Option Response) :=
  f.places.map Place.promised ++ f.queued.map fun a => a.whole.value

theorem Step.promised_eq (h : Step f g) : g.promised = f.promised := by
  cases h with
  | start => simp [promised, promised_reached]
  | @resume before later behind queued events =>
    have hl : later.reached.promised = (Place.waiting later).promised := promised_reached later
    simp only [promised, List.map_append, List.map_cons, hl]

theorem promised_run (h : ReflTransGen Step f g) : g.promised = f.promised := by
  induction h with
  | refl => rfl
  | tail _ hs ih => exact hs.promised_eq.trans ih

theorem Gathered.eq_promised {responses : List (Option Response)} (h : f.Gathered responses) :
    responses = f.promised := by
  obtain ⟨hq, hp⟩ := h
  rw [promised, hq, hp, List.map_map]
  exact (by simp [Function.comp_def, Place.promised])

/-- How many steps a batch is away from its end. -/
def left (f : Flight) : Nat :=
  (f.places.map Place.left).sum + (f.queued.map Place.left.go).sum

theorem Step.left_eq (h : Step f g) : g.left + 1 = f.left := by
  cases h with
  | @start places a queued events =>
    have ha := left_reached a
    simp only [left, List.map_append, List.sum_append, List.map_cons, List.sum_cons, List.map_nil,
      List.sum_nil]
    omega
  | @resume before later behind queued events =>
    have ha := left_reached later
    simp only [left, List.map_append, List.sum_append, List.map_cons, List.sum_cons]
    show _ = _ + (Place.left.go later + _) + _
    omega

/-- A batch can go on or has all its responses. -/
theorem step_or_gathered (f : Flight) : (∃ g, Step f g) ∨ ∃ responses, f.Gathered responses := by
  obtain ⟨places, queued, events⟩ := f
  cases queued with
  | cons a queued => exact .inl ⟨_, .start⟩
  | nil =>
    by_cases hw : ∃ later, Place.waiting later ∈ places
    · obtain ⟨later, hmem⟩ := hw
      obtain ⟨before, behind, rfl⟩ := List.append_of_mem hmem
      exact .inl ⟨_, .resume⟩
    · -- Nothing is queued and nothing waits, so every response is there.
      refine .inr ⟨places.map Place.promised, rfl, ?_⟩
      show places = (places.map Place.promised).map .answered
      rw [List.map_map]
      refine (List.map_id places).symm.trans (List.map_congr_left fun p hp => ?_)
      cases p with
      | waiting later => exact absurd ⟨later, hp⟩ hw
      | answered response => rfl

/-- Every run can be brought to its end. -/
theorem run_finishes (f : Flight) :
    ∃ g responses, ReflTransGen Step f g ∧ g.Gathered responses := by
  -- The induction is on the number of steps to the end, which every step lowers by one.
  induction hn : f.left generalizing f with
  | zero =>
    obtain ⟨g, hs⟩ | ⟨responses, hg⟩ := step_or_gathered f
    · have := hs.left_eq
      omega
    · exact ⟨f, responses, .refl, hg⟩
  | succ n ih =>
    obtain ⟨g, hs⟩ | ⟨responses, hg⟩ := step_or_gathered f
    · have hl := hs.left_eq
      obtain ⟨g', responses, hr, hg⟩ := ih g (by omega)
      exact ⟨g', responses, hr.head hs, hg⟩
    · exact ⟨f, responses, .refl, hg⟩

/-- No request waits, and what was left behind is followed by what is to come in order. -/
structure Straight (total : List Event) (f : Flight) : Prop where
  places : ∀ later, Place.waiting later ∉ f.places
  queued : ∀ a ∈ f.queued, a.NeverWaits
  events : f.events ++ f.queued.flatMap (fun a => a.whole.events) = total

theorem Straight.step {total : List Event} (hf : Straight total f) (h : Step f g) :
    Straight total g := by
  cases h with
  | @start places a queued events =>
    have ha : a.NeverWaits := hf.queued a (by simp)
    cases a with
    | waits events later => exact ha.elim
    | ends emitted response =>
      -- It is over at once, and what it leaves behind moves from what is to come to what is there.
      refine ⟨?_, fun b hb => hf.queued b (by simp [hb]), ?_⟩
      · intro later hmem
        rcases List.mem_append.1 hmem with hp | hp
        · exact hf.places later hp
        · exact absurd hp (by simp [Activity.reached])
      · have he := hf.events
        rw [List.flatMap_cons, ← List.append_assoc] at he
        exact he
  | @resume before later behind queued events =>
    exact absurd (by simp) (hf.places later)

/-- Requests that never wait leave behind what each does, in their order. -/
theorem events_of_neverWaits {activities : List Activity} (hn : ∀ a ∈ activities, a.NeverWaits)
    (h : ReflTransGen Step (of activities) f) {responses : List (Option Response)}
    (hg : f.Gathered responses) : f.events = activities.flatMap fun a => a.whole.events := by
  have hs : Straight (activities.flatMap fun a => a.whole.events) f := by
    clear hg
    induction h with
    | refl => exact ⟨fun _ => by simp [of], hn, by simp [of]⟩
    | tail _ hstep ih => exact ih.step hstep
  have he := hs.events
  rw [hg.1] at he
  simpa using he

end Flight

/-! ## A batch and its requests alone -/

variable {methods : MethodTable} {client : LedgerClient} {room : Json.Room} {alone : Json → Body}

/-- The text that answers an element of a batch, if one does: for an object the one that answers it
alone, for anything else the refusal of what is no request. -/
inductive AnsweredAlone (room : Json.Room) (methods : MethodTable) (client : LedgerClient)
    (alone : Json → Body) : Json → Option String → Prop where
  | object {ms text} : (handle room methods client (alone (.object ms))).value = .ok text →
      AnsweredAlone room methods client alone (.object ms) text
  | other {v} : (∀ ms, v ≠ .object ms) →
      AnsweredAlone room methods client alone v
        (some (errorText (.invalidRequest "Invalid request")))

/-- The log of an element of a batch: for an object the one it leaves alone. -/
def logAlone (room : Json.Room) (methods : MethodTable) (client : LedgerClient)
    (alone : Json → Body) : Json → List LogEntry
  | .object ms => (handle room methods client (alone (.object ms))).entries
  | _ => []

/-- There is always room for the refusal of what is no request. -/
theorem answerTo_other {v : Json} (h : ∀ ms, v ≠ .object ms) :
    answerTo room.depth methods client v =
      .ok (some (errorText (.invalidRequest "Invalid request"))) := by
  obtain ⟨depth, three⟩ := room
  have fits : (members .null ("error", (Error.invalidRequest "Invalid request").toJson)).Fits
      Decimal.digitLimit depth := by
    obtain ⟨depth, rfl⟩ := Nat.exists_eq_add_of_le' three
    have short : Decimal.digitCount 32600 ≤ Decimal.digitLimit := by decide
    exact fits_members .null (@fits_error (.invalidRequest _) short _)
  rw [answerTo_of_not_object h, encodeOne_eq (says_failure _ _), writtenAnswer_of_fits fits]
  rfl

theorem answeredAlone_iff {e : Json} {text : Option String} (h : (alone e).Spells room.depth e) :
    AnsweredAlone room methods client alone e text ↔
      answerTo room.depth methods client e = .ok text := by
  by_cases ho : ∃ ms, e = .object ms
  · obtain ⟨ms, rfl⟩ := ho
    have hv : (handle room methods client (alone (.object ms))).value =
        answerTo room.depth methods client (.object ms) := by
      rw [handle_of_spells h, (handleValue_single (by simp)).1]
    rw [← hv]
    refine ⟨fun ha => ?_, .object⟩
    cases ha with
    | object heq => exact heq
    | other hno => exact absurd rfl (hno ms)
  · have hno : ∀ ms, e ≠ .object ms := fun ms he => ho ⟨ms, he⟩
    rw [answerTo_other hno, Except.ok.injEq]
    refine ⟨fun ha => ?_, fun he => he ▸ .other hno⟩
    cases ha with
    | object => exact absurd rfl (hno _)
    | other => rfl

theorem logAlone_eq {e : Json} (h : (alone e).Spells room.depth e) :
    logAlone room methods client alone e = (handleSingle methods client e).entries := by
  by_cases ho : ∃ ms, e = .object ms
  · obtain ⟨ms, rfl⟩ := ho
    show (handle room methods client (alone (.object ms))).entries = _
    rw [handle_of_spells h, Traced.entries, (handleValue_single (by simp)).2]
    rfl
  · have hno : ∀ ms, e ≠ .object ms := fun ms he => ho ⟨ms, he⟩
    rw [handleSingle_of_not_object methods client hno]
    cases e with
    | object ms => exact absurd rfl (hno ms)
    | _ => rfl

/-- A request that is owed nothing, or whose answer can be written inside an array, is answered
alone with what it says. -/
theorem Yields.answeredAlone {e : Json} {response : Option Json}
    (yields : Yields methods client e response) (h : (alone e).Spells room.depth e)
    (fits : ∀ w ∈ response, w.Fits Decimal.digitLimit (room.depth - 1)) :
    AnsweredAlone room methods client alone e (response.map (Json.write .spaced)) := by
  rw [answeredAlone_iff h, yields.answerTo_eq, writtenAnswer_eq_ok_iff]
  exact ⟨fun w mem => (fits w mem).mono (Nat.le_refl _) (Nat.sub_le _ _), rfl⟩

theorem fits_arrayOf_iff {responses : List (Option Json)} (room : Json.Room) :
    (∀ v ∈ arrayOf responses.reduceOption, v.Fits Decimal.digitLimit room.depth) ↔
      ∀ response ∈ responses, ∀ w ∈ response, w.Fits Decimal.digitLimit (room.depth - 1) := by
  constructor
  · intro h response mem w same
    obtain rfl := Option.mem_def.1 same
    obtain ⟨inner, eq, fits⟩ := fits_of_arrayOf mem h
    rwa [eq, Nat.add_sub_cancel]
  · intro h v mem
    have all : v = .array responses.reduceOption := by
      rw [arrayOf] at mem
      split at mem
      · cases mem
      · exact (Option.mem_some_iff.1 mem).symm
    obtain ⟨depth, three⟩ := room
    obtain ⟨depth, rfl⟩ := Nat.exists_eq_add_of_le' three
    rw [all, Json.fits_array_iff]
    exact fun w there => h (some w) (List.reduceOption_mem_iff.1 there) w rfl

/-- The responses that are gathered are those that handling the requests in turn gives. -/
theorem handleEach_eq_reduceOption {requests : List Json} {activities : List Activity}
    (h : List.Forall₂ (fun e a => handleSingle methods client e =
      ⟨.ok a.whole.value, a.whole.events⟩) requests activities) :
    (handleEach methods client requests).value =
        .ok (activities.map fun a => a.whole.value).reduceOption ∧
      (handleEach methods client requests).events =
        activities.flatMap fun a => a.whole.events := by
  induction h with
  | nil => exact ⟨rfl, rfl⟩
  | @cons e a requests activities own _ ih =>
    obtain ⟨value, events⟩ := handleEach_cons_of_ok requests (congrArg Traced.value own)
    obtain ⟨others, left⟩ := ih
    refine ⟨?_, by rw [events, left, own, List.flatMap_cons]⟩
    rw [value, others, List.map_cons]
    cases a.whole.value <;> rfl

/-- With plain methods a batch is answered exactly if what answers each request can be written
inside an array. -/
theorem handle_batch_answers_iff (h : methods.Plain client) {batch : Body} {requests : List Json}
    (nonempty : requests ≠ []) (whole : batch.Spells room.depth (.array requests)) :
    (∃ answer, (handle room methods client batch).value = .ok answer) ↔
      ∀ e ∈ requests, ∀ w, Yields methods client e (some w) →
        w.Fits Decimal.digitLimit (room.depth - 1) := by
  obtain ⟨responses, yields, -⟩ := exists_yields_each h requests
  rw [handle_of_spells whole, handleValue_batch nonempty yields]
  simp only [writtenAnswer_eq_ok_iff, fits_arrayOf_iff]
  -- What is said in answer to a request is one thing only, so the responses at hand decide.
  constructor
  · rintro ⟨_, fits, -⟩ e mem w said
    obtain ⟨response, there, own⟩ := exists_of_mem_left yields mem
    exact fits response there w (own.unique said)
  · intro fits
    refine ⟨_, fun response there w same => ?_, rfl⟩
    obtain ⟨e, mem, own⟩ := exists_of_mem_right yields there
    exact fits e mem w (Option.mem_def.1 same ▸ own)

/-- A batch against the same requests, each in a body of its own. -/
structure OrderedBatch (room : Json.Room) (methods : MethodTable) (client : LedgerClient)
    (batch : Body) (alone : Json → Body) (requests : List Json) : Prop where
  /-- The batch is answered exactly if what answers each request can be written inside an array. -/
  answered : (∃ answer, (handle room methods client batch).value = .ok answer) ↔
    ∀ e ∈ requests, ∀ w, Yields methods client e (some w) →
      w.Fits Decimal.digitLimit (room.depth - 1)
  /-- Then its answer is made of the answers to the requests alone, in their order. -/
  answer : ∀ answer, (handle room methods client batch).value = .ok answer → ∃ texts,
    List.Forall₂ (AnsweredAlone room methods client alone) requests texts ∧ answer = joined texts
  /-- So is the log, whether it is answered or not. -/
  log : (handle room methods client batch).entries =
    requests.flatMap (logAlone room methods client alone)
  /-- Wherever the requests wait and whichever of them is done first, the answer is the same. -/
  anyOrder : ∀ activities, List.Forall₂ (fun e a => handleSingle methods client e =
      ⟨.ok a.whole.value, a.whole.events⟩) requests activities →
    ∀ flight, ReflTransGen Flight.Step (.of activities) flight →
      (∃ last responses, ReflTransGen Flight.Step flight last ∧ last.Gathered responses) ∧
      ∀ responses, flight.Gathered responses →
        encodeAll room.depth responses.reduceOption = (handle room methods client batch).value ∧
        ((∀ a ∈ activities, a.NeverWaits) →
          flight.events = (handle room methods client batch).events)

/-- With plain methods a batch is the ordered collection of its requests. -/
theorem ordered_batch (h : methods.Plain client) {batch : Body} {requests : List Json}
    (nonempty : requests ≠ []) (whole : batch.Spells room.depth (.array requests))
    (each : ∀ e ∈ requests, (alone e).Spells room.depth e) :
    OrderedBatch room methods client batch alone requests := by
  obtain ⟨value, events⟩ := @handleValue_array methods client room.depth requests nonempty
  obtain ⟨responses, yields, -⟩ := exists_yields_each h requests
  have written : (handle room methods client batch).value =
      writtenAnswer room.depth (arrayOf responses.reduceOption) := by
    rw [handle_of_spells whole, handleValue_batch nonempty yields]
  constructor
  · exact handle_batch_answers_iff h nonempty whole
  · intro answer answered
    rw [written] at answered
    obtain ⟨fits, rfl⟩ := writtenAnswer_eq_ok_iff.1 answered
    refine ⟨responses.map (Option.map (Json.write .spaced)), ?_, (joined_map_write _).symm⟩
    rw [List.forall₂_map_right_iff]
    rw [fits_arrayOf_iff] at fits
    have fitting := ((List.forall₂_and_left responses requests).2 ⟨fits, yields.flip⟩).flip
    have both := (List.forall₂_and_left requests responses).2 ⟨each, fitting⟩
    exact both.imp fun e response own => own.2.2.answeredAlone own.1 own.2.1
  · have each_ok : ∀ e ∈ requests, ∃ response,
        (handleSingle methods client e).value = .ok response :=
      fun e _ => exists_handled h e
    rw [handle_of_spells whole, Traced.entries, events, handleEach_events each_ok,
      List.filterMap_flatMap]
    refine List.flatMap_congr fun e mem => ?_
    rw [logAlone_eq (each e mem)]
    rfl
  · intro activities courses flight run
    refine ⟨flight.run_finishes, fun gathered all => ?_⟩
    obtain ⟨handled, left⟩ := handleEach_eq_reduceOption courses
    rw [handle_of_spells whole, value, events, handled, left]
    -- What is gathered at the end was promised from the start.
    refine ⟨?_, fun never => Flight.events_of_neverWaits never run all⟩
    rw [all.eq_promised, Flight.promised_run run]
    rfl

/-- A batch of a request, a notification, a nested batch and a number. -/
def mixedBatch : List Json :=
  [.object [("id", .int 1), ("method", .string "eth_sign")],
    .object [("method", .string "eth_sign")], .array [], .int 7]

theorem ordered_batch_mixed :
    accountTable.Plain Ledger.fresh.client ∧ mixedBatch ≠ [] ∧
      (Body.text (Json.write .compact (.array mixedBatch))).Spells 3 (.array mixedBatch) ∧
      (∀ e ∈ mixedBatch, (Body.text (Json.write .compact e)).Spells 3 e) ∧
      OrderedBatch ⟨3, Nat.le_refl 3⟩ accountTable Ledger.fresh.client
        (.text (Json.write .compact (.array mixedBatch)))
        (fun e => .text (Json.write .compact e)) mixedBatch := by
  have plain := accountTable_plain Ledger.fresh.ordinary_client
  have nonempty : mixedBatch ≠ [] := by simp [mixedBatch]
  have whole : (Body.text (Json.write .compact (.array mixedBatch))).Spells 3
      (.array mixedBatch) := (Body.read_eq_ok_iff _).1 (by cbv)
  have each : ∀ e ∈ mixedBatch, (Body.text (Json.write .compact e)).Spells 3 e := by
    simp only [mixedBatch, List.forall_mem_cons, List.not_mem_nil, false_imp_iff, implies_true,
      and_true]
    exact ⟨(Body.read_eq_ok_iff _).1 (by cbv), (Body.read_eq_ok_iff _).1 (by cbv),
      (Body.read_eq_ok_iff _).1 (by cbv), (Body.read_eq_ok_iff _).1 (by cbv)⟩
  exact ⟨plain, nonempty, whole, each, ordered_batch plain nonempty whole each⟩

/-- A batch of decoded requests is answered with the texts that answer them alone. -/
def JoinedAlone (room : Json.Room) (methods : MethodTable) (client : LedgerClient)
    (requests : List Json) : Prop :=
  ∃ texts, List.Forall₂ (AnsweredAlone room methods client .value) requests texts ∧
    (handle room methods client (.value (.array requests))).value = .ok (joined texts)

/-- A request for a method that is not offered, with an id that lies as deep as can be written. -/
def deepRequest : Json := requestFor "eth_sign" .null (Json.nested 999)

/-- What answers it. -/
def deepResponse : Json := members (Json.nested 999) ("error", Error.notImplemented.toJson)

theorem yields_deepRequest :
    Yields accountTable Ledger.fresh.client deepRequest (some deepResponse) := by
  have asks : Asks deepRequest "eth_sign" := asks_requestFor (by decide) _ _
  have owed : ¬ Silent deepRequest := by
    rw [silent_iff asks]
    show Json.nested 999 ≠ .null
    rw [Json.nested]
    simp
  exact yields_of_endsIn asks owed (.refused .notImplemented)

/-- A batch is not answered if a method throws an error without a proper code. And it may not be
answered where its only request is: the id lies one step further in. -/
theorem not_joined_alone_noCode_or_deep :
    ¬ JoinedAlone .thousand (failingTable (.noCode noInteger)) Ledger.fresh.client
        [requestFor "b" .null (.int 1)] ∧
      (handle .thousand accountTable Ledger.fresh.client (.value deepRequest)).value =
        .ok (some (Json.write .spaced deepResponse)) ∧
      ¬ JoinedAlone .thousand accountTable Ledger.fresh.client [deepRequest] := by
  refine ⟨?_, ?_, ?_⟩
  · rintro ⟨texts, -, answered⟩
    exact absurd (show Except.error (ServeFault.noCode noInteger) = _ from answered) (by simp)
  · have fits : deepResponse.Fits Decimal.digitLimit 1000 := by
      have short : Decimal.digitCount 32004 ≤ Decimal.digitLimit := by decide
      exact fits_members (Json.fits_nested_iff.2 (Nat.le_refl 999))
        (@fits_error .notImplemented short 998)
    have spelt : (Body.value deepRequest).Spells 1000 deepRequest := rfl
    rw [handle_of_spells spelt, (handleValue_single (by simp [deepRequest, requestFor])).1,
      yields_deepRequest.answerTo_eq]
    exact writtenAnswer_of_fits fits
  · rintro ⟨texts, -, answered⟩
    have plain := accountTable_plain Ledger.fresh.ordinary_client
    have spelt : (Body.value (.array [deepRequest])).Spells 1000 (.array [deepRequest]) := rfl
    have fits : deepResponse.Fits Decimal.digitLimit 999 :=
      (handle_batch_answers_iff plain (List.cons_ne_nil _ _) spelt).1 ⟨_, answered⟩ _
        (List.mem_singleton_self _) _ yields_deepRequest
    have id := Json.fits_object_iff.1 fits ("id", Json.nested 999) (by simp)
    exact absurd (Json.fits_nested_iff.1 id) (by decide)

end LedgerGateway.Rpc
