import LedgerGateway.Proofs.Notifications
import LedgerGateway.Rpc.Registration

/-!
# What a server offers behind any registrations

The names of a table are those that were registered, each once, in the order in which they first
came. A request for a name is served by one call of the method that was registered last under it;
if there is none, no method is called and the request is told so, unless nobody waits. Registrations
under other names change neither.

* `InFirstOrder`, `LastUnder` — what is said by the registrations alone.
* `Records` — a table has what was registered and nothing else; so it is behind one registration
  more (`Records.register`), and behind any number of them (`Records.performAll`).
* `Served`, `served_found`, `served_unknown` — how a request for a name is served.
* `handle_other` — registrations under names that a body does not ask for.
* `Http.Reports`, `Http.serve_probed` — the count of the methods over HTTP.
* `offers_registered` — a server behind any registrations.
-/

namespace LedgerGateway.Rpc

/-! ## What the registrations say -/

/-- The names are those of a list, each once, and stand in the order in which they first came. -/
structure InFirstOrder (all names : List String) : Prop where
  mem : ∀ name, name ∈ names ↔ name ∈ all
  once : names.Nodup
  order : names.Pairwise fun a b => all.idxOf a < all.idxOf b

/-- The method that was registered last under a name, or none if none was. -/
def LastUnder (entries : List (String × Method)) (name : String) : Option Method → Prop
  | some m => ∃ before after, entries = before ++ (name, m) :: after ∧ ∀ e ∈ after, e.1 ≠ name
  | none => ∀ e ∈ entries, e.1 ≠ name

section History

variable {all names : List String} {entries : List (String × Method)} {name other : String}
  {m : Method}

theorem InFirstOrder.of_mem (h : InFirstOrder all names) (known : name ∈ names) :
    InFirstOrder (all ++ [name]) names where
  mem other := by
    rw [h.mem, List.mem_append, List.mem_singleton, or_iff_left_of_imp]
    rintro rfl
    exact (h.mem _).1 known
  once := h.once
  order := by
    refine h.order.imp_of_mem fun {a b} memA memB before => ?_
    rwa [List.idxOf_append_of_mem ((h.mem a).1 memA), List.idxOf_append_of_mem ((h.mem b).1 memB)]

theorem InFirstOrder.of_not_mem (h : InFirstOrder all names) (new : name ∉ names) :
    InFirstOrder (all ++ [name]) (names ++ [name]) where
  mem other := by
    rw [List.mem_append, List.mem_append, h.mem]
  once := by
    rw [List.nodup_append]
    refine ⟨h.once, List.nodup_singleton name, ?_⟩
    rintro a mem b last rfl
    exact new (List.mem_singleton.1 last ▸ mem)
  order := by
    have new' : name ∉ all := fun old => new ((h.mem name).2 old)
    refine List.pairwise_append.2 ⟨?_, List.pairwise_singleton _ _, ?_⟩
    · refine h.order.imp_of_mem fun {a b} memA memB before => ?_
      rwa [List.idxOf_append_of_mem ((h.mem a).1 memA),
        List.idxOf_append_of_mem ((h.mem b).1 memB)]
    · -- The new name first comes behind all that were there.
      intro a memA b memB
      obtain rfl := List.mem_singleton.1 memB
      have old := (h.mem a).1 memA
      rw [List.idxOf_append_of_mem old, List.idxOf_append_of_notMem new']
      have := List.idxOf_lt_length_of_mem old
      omega

theorem LastUnder.of_same : LastUnder (entries ++ [(name, m)]) name (some m) :=
  ⟨entries, [], rfl, by simp⟩

theorem LastUnder.of_other {r : Option Method} (h : LastUnder entries other r)
    (apart : name ≠ other) : LastUnder (entries ++ [(name, m)]) other r := by
  cases r with
  | none => exact List.forall_mem_append.2 ⟨h, by simpa using apart⟩
  | some last =>
    obtain ⟨before, after, rfl, behind⟩ := h
    refine ⟨before, after ++ [(name, m)], by simp, ?_⟩
    exact List.forall_mem_append.2 ⟨behind, by simpa using apart⟩

theorem eq_of_none_behind {cut after after' : List (String × Method)} {m' : Method}
    (same : (name, m) :: after = cut ++ (name, m') :: after')
    (behind : ∀ e ∈ after, e.1 ≠ name) : m = m' := by
  cases cut with
  | nil =>
    cases same
    rfl
  | cons e rest =>
    obtain ⟨-, rfl⟩ := List.cons.inj same
    exact absurd rfl (behind (name, m') (by simp))

/-- At most one method was registered last under a name. -/
theorem LastUnder.unique {r r' : Option Method} (h : LastUnder entries name r)
    (h' : LastUnder entries name r') : r = r' := by
  cases r with
  | none =>
    cases r' with
    | none => rfl
    | some m' =>
      obtain ⟨before, after, rfl, -⟩ := h'
      exact absurd rfl (h (name, m') (by simp))
  | some m =>
    obtain ⟨before, after, rfl, behind⟩ := h
    cases r' with
    | none => exact absurd rfl (h' (name, m) (by simp))
    | some m' =>
      obtain ⟨before', after', same, behind'⟩ := h'
      congr 1
      -- Of the two places one is not in front of the other.
      obtain ⟨cut, -, same⟩ | ⟨cut, -, same⟩ := List.append_eq_append_iff.1 same
      · exact eq_of_none_behind same behind
      · exact (eq_of_none_behind same behind').symm

end History

/-! ## The table behind registrations -/

/-- A table has the names and methods that were registered, and nothing else. -/
structure Records (entries : List (String × Method)) (t : MethodTable) : Prop where
  names : InFirstOrder (entries.map Prod.fst) t.names
  last : ∀ name, LastUnder entries name (t.find? name)

theorem records_nil : Records [] [] where
  names := ⟨fun _ => Iff.rfl, List.nodup_nil, .nil⟩
  last _ := fun _ mem => absurd mem List.not_mem_nil

section Tables

variable {entries : List (String × Method)} {t : MethodTable}

theorem find?_register (t : MethodTable) (name other : String) (m : Method) :
    (t.register name m).value.find? other = if other = name then some m else t.find? other :=
  Association.lookup_put t name other m

theorem names_register (t : MethodTable) (name : String) (m : Method) :
    (t.register name m).value.names =
      if name ∈ t.names then t.names else t.names ++ [name] :=
  Association.keys_put t name m

theorem Records.register (h : Records entries t) (name : String) (m : Method) :
    Records (entries ++ [(name, m)]) (t.register name m).value where
  names := by
    rw [names_register, List.map_append]
    split
    · next known => exact h.names.of_mem known
    · next new => exact h.names.of_not_mem new
  last other := by
    rw [find?_register]
    split
    · next same =>
      subst same
      exact .of_same
    · next apart => exact (h.last other).of_other (Ne.symm apart)

theorem Records.registerEach (h : Records entries t) (methods : List (String × Method)) :
    Records (entries ++ methods) (t.registerEach methods).value := by
  induction methods generalizing entries t with
  | nil =>
    rw [List.append_nil]
    exact h
  | cons e rest ih =>
    obtain ⟨name, m⟩ := e
    have behind := ih (h.register name m)
    rwa [List.append_assoc] at behind

theorem Records.perform (h : Records entries t) (r : Registration) :
    Records (entries ++ r.entries) (t.perform r).value := by
  cases r with
  | one name m => exact h.register name m
  | several methods => exact h.registerEach methods

/-- Registrations leave the table behind all that was registered. -/
theorem Records.performAll (h : Records entries t) (history : List Registration) :
    Records (entries ++ registered history) (t.performAll history).value := by
  induction history generalizing entries t with
  | nil =>
    rw [registered, List.flatMap_nil, List.append_nil]
    exact h
  | cons r rest ih =>
    have behind := ih (h.perform r)
    rwa [List.append_assoc] at behind

end Tables

/-! ## How a request is served -/

/-- What becomes of a request: one thing if nobody waits for a response, another if somebody does.
-/
structure Due (v : Json) (kept told outcome : Except ServeFault (Option Response)) : Prop where
  silent : Silent v → outcome = kept
  owed : ¬ Silent v → outcome = told

theorem exists_due (v : Json) (kept told : Except ServeFault (Option Response)) :
    ∃ outcome, Due v kept told outcome := by
  by_cases silent : Silent v
  · exact ⟨kept, fun _ => rfl, fun owed => absurd silent owed⟩
  · exact ⟨told, fun silent' => absurd silent' silent, fun _ => rfl⟩

/-- The answer to a body that is made of what becomes of its one request. -/
def answerOf (depth : Nat) : Except ServeFault (Option Response) → Except ServeFault (Option String)
  | .error fault => .error fault
  | .ok none => .ok none
  | .ok (some response) => (encodeOne depth response).map some

/-- The responses of a batch from those before a request, what becomes of it, and those behind it.
The fault that comes first is that of the batch. -/
def joinedAround (before : Except ServeFault (List Response))
    (outcome : Except ServeFault (Option Response)) (behind : Except ServeFault (List Response)) :
    Except ServeFault (List Response) := do
  let earlier ← before
  let others ← gather outcome behind
  return earlier ++ others

/-- No request among these ends so that nothing else goes on. -/
def GoesOn (methods : MethodTable) (client : LedgerClient) (requests : List Json) : Prop :=
  ∀ e ∈ requests, isHalted (handleSingle methods client e).value = false

/-- What becomes of a request and the events that it leaves behind: by itself, as a body, and in a
batch between any others. It is not reached behind one that lets nothing else go on. -/
structure Served (methods : MethodTable) (client : LedgerClient) (v : Json) (events : List Event)
    (outcome : Except ServeFault (Option Response)) : Prop where
  single : handleSingle methods client v = ⟨outcome, events⟩
  alone : ∀ {room : Json.Room} {body}, body.Spells room.depth v →
    handle room methods client body = ⟨answerOf room.depth outcome, events⟩
  batched : ∀ {room : Json.Room} {body before behind},
    body.Spells room.depth (.array (before ++ v :: behind)) → GoesOn methods client before →
      handle room methods client body =
        ⟨(joinedAround (handleEach methods client before).value outcome
            (handleEach methods client behind).value).bind (encodeAll room.depth),
          (handleEach methods client before).events ++ events ++
            if isHalted outcome then [] else (handleEach methods client behind).events⟩

section Serving

variable {methods : MethodTable} {client : LedgerClient} {v : Json} {name : String} {m : Method}
  {outcome : Except ServeFault (Option Response)} {events : List Event}

theorem handleEach_cons (h : handleSingle methods client v = ⟨outcome, events⟩)
    (behind : List Json) : handleEach methods client (v :: behind) =
      ⟨gather outcome (handleEach methods client behind).value,
        events ++ if isHalted outcome then [] else (handleEach methods client behind).events⟩ := by
  rw [handleEach, h]
  cases halted : isHalted outcome with
  | false => simp [Traced.ext_iff, halted]
  | true =>
    -- What lets nothing else go on is a fault, and so is the batch.
    obtain ⟨fault, rfl⟩ : ∃ fault, outcome = .error fault := by
      cases outcome with
      | error fault => exact ⟨fault, rfl⟩
      | ok _ => cases halted
    have failed (others : Except ServeFault (List Response)) :
        gather (.error fault) others = .error fault := rfl
    simp [Traced.ext_iff, halted, failed]

theorem gather_joinedAround (first : Except ServeFault (Option Response))
    (before behind : Except ServeFault (List Response)) :
    gather first (joinedAround before outcome behind) =
      joinedAround (gather first before) outcome behind := by
  cases first with
  | error fault => rfl
  | ok response =>
    cases before with
    | error fault => rfl
    | ok earlier =>
      cases outcome with
      | error fault => rfl
      | ok own =>
        cases behind with
        | error fault => rfl
        | ok later => simp [joinedAround, gather, bind, Except.bind, pure, Except.pure]

/-- A request in a batch is handled between those before it and those behind it. -/
theorem handleEach_around (h : handleSingle methods client v = ⟨outcome, events⟩)
    {before : List Json} (going : GoesOn methods client before) (behind : List Json) :
    handleEach methods client (before ++ v :: behind) =
      ⟨joinedAround (handleEach methods client before).value outcome
          (handleEach methods client behind).value,
        (handleEach methods client before).events ++ events ++
          if isHalted outcome then [] else (handleEach methods client behind).events⟩ := by
  induction before with
  | nil =>
    have empty : handleEach methods client [] = ⟨.ok [], []⟩ := rfl
    rw [List.nil_append, handleEach_cons h, empty]
    cases gathered : gather outcome (handleEach methods client behind).value <;>
      simp [joinedAround, gathered, bind, Except.bind, pure, Except.pure]
  | cons e rest ih =>
    obtain ⟨single, handled⟩ : ∃ single, handleSingle methods client e = single := ⟨_, rfl⟩
    have own : isHalted single.value = false := by
      rw [← handled]
      exact going e (by simp)
    rw [List.cons_append, handleEach_cons handled, handleEach_cons handled,
      ih fun e' mem => going e' (List.mem_cons_of_mem e mem), own, gather_joinedAround]
    simp

theorem served_of_single (object : ∃ ms, v = .object ms)
    (h : handleSingle methods client v = ⟨outcome, events⟩) :
    Served methods client v events outcome where
  single := h
  alone := by
    intro room body spelt
    obtain ⟨ms, rfl⟩ := object
    have single : ∀ items, Json.object ms ≠ .array items := by
      rintro items ⟨⟩
    obtain ⟨value, left⟩ := @handleValue_single methods client room.depth _ single
    rw [handle_of_spells spelt, Traced.ext_iff, value, left, answerTo, h]
    exact ⟨rfl, rfl⟩
  batched := by
    intro room body before behind spelt going
    have nonempty : before ++ v :: behind ≠ [] := by simp
    obtain ⟨value, left⟩ := @handleValue_array methods client room.depth _ nonempty
    rw [handle_of_spells spelt, Traced.ext_iff, value, left, handleEach_around h going]
    exact ⟨rfl, rfl⟩

/-- A request is served as its call ends. -/
theorem served_of_call (asks : Asks v name) {called : Traced (Except MethodFault Reply)}
    (h : call methods client name (carriedParams v) = called)
    (due : Due v (dropped called.value) ((respond (carriedId v) called.value).map some) outcome) :
    Served methods client v called.events outcome := by
  obtain ⟨left, silent, owed⟩ := handleSingle_of_asks methods client asks
  rw [h] at left silent owed
  refine served_of_single asks.isObject (Traced.ext_iff.2 ⟨?_, left⟩)
  by_cases waits : Silent v
  · rw [silent waits, due.silent waits]
  · rw [owed waits, due.owed waits]

/-- What one call of a method leaves behind. -/
def callEvents (name : String) (m : Method) (params : Json) (client : LedgerClient) : List Event :=
  (m params client).events ++ (noteCrash name (m params client).value).events

/-- A request for a method of the table is served by one call of it. -/
theorem served_found (asks : Asks v name) (found : methods.find? name = some m)
    (due : Due v (dropped (m (carriedParams v) client).value)
      ((respond (carriedId v) (m (carriedParams v) client).value).map some) outcome) :
    Served methods client v (callEvents name m (carriedParams v) client) outcome := by
  have called : call methods client name (carriedParams v) =
      ⟨(m (carriedParams v) client).value, callEvents name m (carriedParams v) client⟩ := by
    rw [call, found, Traced.ext_iff]
    exact ⟨rfl, by simp [callEvents]⟩
  exact served_of_call asks called due

/-- A request for a method that there is not is served by no call. -/
theorem served_unknown (asks : Asks v name) (none_ : methods.find? name = none)
    (due : Due v (.ok none) (.ok (some (.failure (carriedId v) (.methodNotFound name)))) outcome) :
    Served methods client v [] outcome :=
  served_of_call asks (call_of_unknown none_ (carriedParams v)) due

end Serving

/-! ## Registrations under other names -/

section Others

variable {methods methods' : MethodTable} {client : LedgerClient}

theorem handleSingle_other {v : Json}
    (same : ∀ name, Asks v name → methods'.find? name = methods.find? name) :
    handleSingle methods' client v = handleSingle methods client v := by
  by_cases ha : ∃ name, Asks v name
  · obtain ⟨name, asks⟩ := ha
    have called : call methods' client name (carriedParams v) =
        call methods client name (carriedParams v) := by
      rw [call, call, same name asks]
    obtain ⟨left, silent, owed⟩ := handleSingle_of_asks methods client asks
    obtain ⟨left', silent', owed'⟩ := handleSingle_of_asks methods' client asks
    refine Traced.ext_iff.2 ⟨?_, by rw [left, left', called]⟩
    by_cases waits : Silent v
    · rw [silent waits, silent' waits, called]
    · rw [owed waits, owed' waits, called]
  · have none_ : ∀ name, ¬ Asks v name := fun name asks => ha ⟨name, asks⟩
    rw [handleSingle_refused methods client none_, handleSingle_refused methods' client none_]

theorem handleEach_other {requests : List Json}
    (same : ∀ e ∈ requests, ∀ name, Asks e name → methods'.find? name = methods.find? name) :
    handleEach methods' client requests = handleEach methods client requests := by
  induction requests with
  | nil => rfl
  | cons e rest ih =>
    rw [List.forall_mem_cons] at same
    rw [handleEach, handleEach, handleSingle_other same.1, ih same.2]

theorem handleValue_other {v : Json} (depth : Nat)
    (same : ∀ e ∈ requestsOf v, ∀ name, Asks e name → methods'.find? name = methods.find? name) :
    handleValue depth methods' client v = handleValue depth methods client v := by
  by_cases ha : ∃ items, v = .array items
  · obtain ⟨requests, rfl⟩ := ha
    by_cases empty : requests = []
    · rw [empty]
      rfl
    · obtain ⟨value, left⟩ := @handleValue_array methods client depth _ empty
      obtain ⟨value', left'⟩ := @handleValue_array methods' client depth _ empty
      rw [Traced.ext_iff, value, value', left, left', @handleEach_other _ _ _ requests same]
      exact ⟨rfl, rfl⟩
  · have single : ∀ items, v ≠ .array items := fun items he => ha ⟨items, he⟩
    obtain ⟨value, left⟩ := @handleValue_single methods client depth _ single
    obtain ⟨value', left'⟩ := @handleValue_single methods' client depth _ single
    rw [requestsOf_single single, List.forall_mem_singleton] at same
    rw [Traced.ext_iff, value, value', left, left', answerTo, answerTo, handleSingle_other same]
    exact ⟨rfl, rfl⟩

/-- A body asks for none of the names. -/
def AsksForNone (depth : Nat) (body : Body) (names : List String) : Prop :=
  ∀ v, body.Spells depth v → ∀ e ∈ requestsOf v, ∀ name ∈ names, ¬ Asks e name

theorem find?_registerEach_other {entries : List (String × Method)} {name : String}
    (other : name ∉ entries.map Prod.fst) (t : MethodTable) :
    (t.registerEach entries).value.find? name = t.find? name := by
  induction entries generalizing t with
  | nil => rfl
  | cons e rest ih =>
    obtain ⟨key, m⟩ := e
    rw [List.map_cons, List.mem_cons, not_or] at other
    show ((t.register key m).value.registerEach rest).value.find? name = _
    rw [ih other.2, find?_register, if_neg other.1]

theorem find?_perform_other {r : Registration} {name : String}
    (other : name ∉ r.entries.map Prod.fst) (t : MethodTable) :
    (t.perform r).value.find? name = t.find? name := by
  cases r with
  | one key m => exact @find?_registerEach_other [(key, m)] name other t
  | several methods => exact find?_registerEach_other other t

theorem find?_performAll_other {more : List Registration} {name : String}
    (other : name ∉ (registered more).map Prod.fst) (t : MethodTable) :
    (t.performAll more).value.find? name = t.find? name := by
  induction more generalizing t with
  | nil => rfl
  | cons r rest ih =>
    rw [registered, List.flatMap_cons, List.map_append, List.mem_append, not_or] at other
    show ((t.perform r).value.performAll rest).value.find? name = _
    rw [ih other.2, find?_perform_other other.1]

/-- Registrations change nothing for a body that asks for none of their names. -/
theorem handle_other {more : List Registration} {room : Json.Room} {body : Body}
    (other : AsksForNone room.depth body ((registered more).map Prod.fst)) (t : MethodTable) :
    handle room (t.performAll more).value client body = handle room t client body := by
  unfold handle
  split
  · rfl
  · rfl
  · next v read =>
    have spelt := (Body.read_eq_ok_iff body).1 read
    refine handleValue_other _ fun e mem name asks => find?_performAll_other ?_ t
    exact fun known => other v spelt e mem name known asks

end Others

end LedgerGateway.Rpc

/-! ## The count of methods over HTTP -/

namespace LedgerGateway.Http

/-- A request for the state of the gateway, under a policy that can be used. -/
structure Probed (policy : Policy) (r : Request) : Prop where
  method : r.method = "GET"
  path : r.path = "/health"
  origins : policy.corsEnabled = true → ∃ origins, Origins.ofDatum? policy.origins = some origins

/-- The response tells that the gateway is up and how many methods it has. -/
structure Reports (count : Nat) (response : Response) : Prop where
  status : response.status = 200
  /-- The body is a strict text of JSON for this object and for nothing else. -/
  body : ∀ v, (∃ digits depth,
      Json.WholeText Json.strictWords digits depth v response.body.toList) ↔
    v = .object [("ok", .bool true), ("methods", .int count)]

theorem reports_health (methods : Rpc.MethodTable) :
    Reports methods.names.length (health methods) := by
  have held : ∀ {float : Decimal.Binary64 → Prop} {names : List String → Prop},
      names ["ok", "methods"] → Json.Holds float names
        (.object [("ok", .bool true), ("methods", .int methods.names.length)]) := by
    intro float names both
    refine .object both ?_
    simpa using ⟨.bool, .int⟩
  have writable : Json.Writable
      (.object [("ok", .bool true), ("methods", .int methods.names.length)]) := held trivial
  have distinct : Json.Distinct
      (.object [("ok", .bool true), ("methods", .int methods.names.length)]) := held (by decide)
  refine ⟨rfl, fun v => ?_⟩
  rw [← distinct.settle_eq, ← Json.wholeText_write_iff Json.compact_regular writable,
    ← String.toList_ofList (l := Json.writeChars .compact _)]
  rfl

theorem serve_probed {policy : Policy} {r : Request} (h : Probed policy r) (room : Json.Room)
    (methods : Rpc.MethodTable) (client : LedgerClient) :
    ∃ response, Reports methods.names.length response ∧
      (serve room policy methods client r).value = ⟨some response, none⟩ := by
  have get : r.method ≠ "OPTIONS" := by
    rw [h.method]
    decide
  obtain ⟨complete, same, served⟩ :=
    @serve_eq_serveWith room _ _ (preflight?_eq_none get) h.origins methods client
  obtain ⟨status, body⟩ := reports_health methods
  refine ⟨complete (health methods), ⟨(same _).1.trans status, by rwa [(same _).2]⟩, ?_⟩
  have asked : target r.method r.path = .health := by
    rw [h.method, h.path]
    decide
  rw [served, serveWith, serveTarget, asked]
  rfl

end LedgerGateway.Http

/-! ## A server behind any registrations -/

namespace LedgerGateway.Rpc

/-- What a server offers behind registrations. -/
structure Offers (history : List Registration) (methods : MethodTable) : Prop where
  names : InFirstOrder ((registered history).map Prod.fst) methods.names
  /-- The state of the gateway tells how many names there are. -/
  health : ∀ room policy client r, Http.Probed policy r →
    ∃ response, Http.Reports methods.names.length response ∧
      (Http.serve room policy methods client r).value = ⟨some response, none⟩
  /-- A method was registered last under a name, or none was. -/
  known : ∀ name, ∃ method?, LastUnder (registered history) name method?
  /-- A request is served by one call of the method that was registered last under its name. The
  calls of all methods may be noted, in whatever way: there is no other call. -/
  called : ∀ {name m}, LastUnder (registered history) name (some m) →
    ∀ {v}, Asks v name → ∀ client, ∃ outcome,
      Due v (dropped (m (carriedParams v) client).value)
        ((respond (carriedId v) (m (carriedParams v) client).value).map some) outcome ∧
      Served methods client v (callEvents name m (carriedParams v) client) outcome ∧
      ∀ note, Served (methods.noting note) client v
        (note name (carriedParams v) ++ callEvents name m (carriedParams v) client) outcome
  /-- If there is none, no method is called. -/
  unknown : ∀ {name}, LastUnder (registered history) name none →
    ∀ {v}, Asks v name → ∀ client, ∃ outcome,
      Due v (.ok none)
        (.ok (some (.failure (carriedId v) ⟨-32601, "Method not found: " ++ name⟩))) outcome ∧
      Served methods client v [] outcome ∧
      ∀ note, Served (methods.noting note) client v [] outcome
  /-- More registrations change nothing for a body that asks for none of their names. -/
  others : ∀ {more} {room : Json.Room} {body},
    AsksForNone room.depth body ((registered more).map Prod.fst) →
      ∀ client, handle room (methods.performAll more).value client body =
        handle room methods client body

theorem Records.find?_eq {entries : List (String × Method)} {t : MethodTable}
    (h : Records entries t) {name : String} {method? : Option Method}
    (last : LastUnder entries name method?) : t.find? name = method? :=
  (h.last name).unique last

theorem Records.offers {history : List Registration} {t : MethodTable}
    (h : Records (registered history) t) : Offers history t := by
  constructor
  · exact h.names
  · intro room policy client r probed
    exact Http.serve_probed probed room t client
  · intro name
    exact ⟨t.find? name, h.last name⟩
  · intro name m last v asks client
    have found := h.find?_eq last
    obtain ⟨outcome, due⟩ := exists_due v (dropped (m (carriedParams v) client).value)
      ((respond (carriedId v) (m (carriedParams v) client).value).map some)
    refine ⟨outcome, due, served_found asks found due, fun note => ?_⟩
    have noted := find?_noting note t name
    rw [found] at noted
    have served : Served _ client _ _ _ := served_found asks noted due
    rwa [callEvents, List.append_assoc] at served
  · intro name none_ v asks client
    have absent := h.find?_eq none_
    obtain ⟨outcome, due⟩ := exists_due v (.ok none)
      (.ok (some (.failure (carriedId v) (.methodNotFound name))))
    refine ⟨outcome, due, served_unknown asks absent due, fun note => ?_⟩
    refine served_unknown asks ?_ due
    rw [find?_noting, absent]
    rfl
  · intro more room body other client
    exact handle_other other t

/-- **Registrations.** A server that is filled by registrations, in whatever order and with names
that come again, offers what they say. -/
theorem offers_registered (history : List Registration) :
    Offers history (MethodTable.performAll [] history).value :=
  (records_nil.performAll history).offers

end LedgerGateway.Rpc
