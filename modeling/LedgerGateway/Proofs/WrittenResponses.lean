import LedgerGateway.Proofs.WritableValues
import LedgerGateway.Rpc.Dispatcher
import Mathlib.Data.List.Forall2

/-!
# What responses are written as

A response says an object of three members, unless its outcome is of a kind that JSON cannot
express; the responses of a batch say the array of such objects. What is said is written if there is
room for it and no integer in it is too long, and then the text tells nothing else.

* `Response.Says` — the object that a response says.
* `writtenAnswer` — the text of what is said, or why it is not written.
* `encodeOne_eq`, `encodeAll_eq` — the encoders write what the responses say.
* `encodeOne_eq_ok_iff`, `encodeAll_eq_ok_iff` — when there is a text at all, and which one.
-/

namespace LedgerGateway.Rpc

open Decimal (digitLimit)

/-! ## What is said -/

/-- A response as a JSON object. -/
def members (id : Json) (outcome : String × Json) : Json :=
  .object [("jsonrpc", .string "2.0"), ("id", id), outcome]

/-- The last member of a response of the outcome. -/
inductive Outcome.Tells : Outcome → String × Json → Prop where
  | result (v : Json) : Tells (.result (.value v)) ("result", v)
  | error (e : Json) : Tells (.error e) ("error", e)
  | refusal (code : Int) (message : Json) : Tells (.refusal code (.value message))
      ("error", .object [("code", .int code), ("message", message)])

/-- The object that a response says. -/
def Response.Says (r : Response) (v : Json) : Prop :=
  ∃ member, r.outcome.Tells member ∧ v = .object [("jsonrpc", r.version), ("id", r.id), member]

theorem Outcome.Tells.unique {o : Outcome} {member member' : String × Json} (h : o.Tells member)
    (h' : o.Tells member') : member = member' := by
  cases h <;> cases h' <;> rfl

theorem Response.Says.unique {r : Response} {v v' : Json} (h : r.Says v) (h' : r.Says v') :
    v = v' := by
  obtain ⟨member, tells, rfl⟩ := h
  obtain ⟨member', tells', rfl⟩ := h'
  rw [tells.unique tells']

/-- An outcome tells nothing only if there is something in it that JSON cannot express. -/
theorem Outcome.tells_or_unencodable (o : Outcome) :
    (∃ member, o.Tells member) ∨
      ∃ kind, o = .result (.unencodable kind) ∨ ∃ code, o = .refusal code (.unencodable kind) := by
  cases o with
  | result reply =>
    cases reply with
    | value v => exact .inl ⟨_, .result v⟩
    | unencodable kind => exact .inr ⟨kind, .inl rfl⟩
  | error e => exact .inl ⟨_, .error e⟩
  | refusal code message =>
    cases message with
    | value v => exact .inl ⟨_, .refusal code v⟩
    | unencodable kind => exact .inr ⟨kind, .inr ⟨code, rfl⟩⟩

/-! ## Objects -/

/-- The value that is written, or why it is not. -/
def writtenValue (depth : Nat) (v : Json) : Except EncodeFault Json :=
  (v.checked depth).mapError .unwritable

theorem writtenValue_eq_ok_iff {depth : Nat} {v w : Json} :
    writtenValue depth v = .ok w ↔ v.Fits digitLimit depth ∧ w = v := by
  rw [← Json.checked_eq_ok_iff, writtenValue]
  cases v.checked depth <;> simp [Except.mapError]

/-- The members of an object are written one after another. -/
theorem writtenValue_object (depth : Nat) (a b c : String × Json) :
    writtenValue (depth + 1) (.object [a, b, c]) = (do
      let x ← writtenValue depth a.2
      let y ← writtenValue depth b.2
      let z ← writtenValue depth c.2
      return .object [(a.1, x), (b.1, y), (c.1, z)]) := by
  simp only [writtenValue, Json.checked, Json.fault?, Json.membersFault?]
  cases a.2.fault? depth with
  | some fault => rfl
  | none =>
    cases b.2.fault? depth with
    | some fault => rfl
    | none => cases c.2.fault? depth <;> rfl

theorem writtenValue_pair (depth : Nat) (a b : String × Json) :
    writtenValue (depth + 1) (.object [a, b]) = (do
      let x ← writtenValue depth a.2
      let y ← writtenValue depth b.2
      return .object [(a.1, x), (b.1, y)]) := by
  simp only [writtenValue, Json.checked, Json.fault?, Json.membersFault?]
  cases a.2.fault? depth with
  | some fault => rfl
  | none => cases b.2.fault? depth <;> rfl

/-- The last member is written as it is told. -/
theorem Outcome.Tells.written_eq {o : Outcome} {member : String × Json} (h : o.Tells member)
    (depth : Nat) :
    o.written depth = (writtenValue depth member.2).map fun v => (member.1, v) := by
  cases h with
  | result v =>
    show (do let w ← writtenValue depth v; return ("result", w)) = _
    cases writtenValue depth v <;> rfl
  | error e =>
    show (do let w ← writtenValue depth e; return ("error", w)) = _
    cases writtenValue depth e <;> rfl
  | refusal code message =>
    cases depth with
    | zero => rfl
    | succ depth =>
      rw [writtenValue_pair]
      show (do
        let c ← writtenValue depth (.int code)
        let m ← writtenValue depth message
        return ("error", Json.object [("code", c), ("message", m)])) = _
      cases writtenValue depth (.int code) with
      | error fault => rfl
      | ok c => cases writtenValue depth message <;> rfl

/-- A response is written as what it says. -/
theorem Response.Says.written_eq {r : Response} {v : Json} (h : r.Says v) (depth : Nat) :
    r.written depth = writtenValue depth v := by
  obtain ⟨member, tells, rfl⟩ := h
  cases depth with
  | zero => rfl
  | succ depth =>
    rw [writtenValue_object, Response.written, tells.written_eq]
    show (do
      let version ← writtenValue depth r.version
      let id ← writtenValue depth r.id
      let member ← (writtenValue depth member.2).map fun v => (member.1, v)
      return Json.object [("jsonrpc", version), ("id", id), member]) = _
    cases writtenValue depth r.version with
    | error fault => rfl
    | ok version =>
      cases writtenValue depth r.id with
      | error fault => rfl
      | ok id => cases writtenValue depth member.2 <;> rfl

/-- A response that says nothing is not written. -/
theorem written_of_unsaid {r : Response} (h : ∀ v, ¬ r.Says v) (depth : Nat) :
    ∃ fault, r.written depth = .error fault := by
  obtain ⟨member, tells⟩ | ⟨kind, unencodable⟩ := r.outcome.tells_or_unencodable
  · exact absurd ⟨member, tells, rfl⟩ (h _)
  cases depth with
  | zero => exact ⟨_, rfl⟩
  | succ depth =>
    have last : ∃ fault, r.outcome.written depth = .error fault := by
      obtain same | ⟨code, same⟩ := unencodable
      · rw [same]
        exact ⟨_, rfl⟩
      · rw [same]
        cases depth with
        | zero => exact ⟨_, rfl⟩
        | succ depth =>
          rw [Outcome.written]
          cases Reply.written depth (.value (.int code)) <;> exact ⟨_, rfl⟩
    obtain ⟨fault, failed⟩ := last
    rw [Response.written, failed]
    cases Reply.written depth (.value r.version) with
    | error fault => exact ⟨_, rfl⟩
    | ok version => cases Reply.written depth (.value r.id) <;> exact ⟨_, rfl⟩

theorem written_eq_ok_iff {r : Response} {depth : Nat} {v : Json} :
    r.written depth = .ok v ↔ r.Says v ∧ v.Fits digitLimit depth := by
  constructor
  · intro h
    by_cases said : ∃ w, r.Says w
    · obtain ⟨w, speaks⟩ := said
      obtain ⟨fits, rfl⟩ := writtenValue_eq_ok_iff.1 ((speaks.written_eq depth).symm.trans h)
      exact ⟨speaks, fits⟩
    · obtain ⟨fault, failed⟩ := written_of_unsaid (fun w speaks => said ⟨w, speaks⟩) depth
      exact absurd (h.symm.trans failed) (by simp)
  · rintro ⟨speaks, fits⟩
    rw [speaks.written_eq, writtenValue_eq_ok_iff]
    exact ⟨fits, rfl⟩

/-! ## Arrays -/

theorem mapM_eq_ok_iff {α β ε : Type} {f : α → Except ε β} {l : List α} {bs : List β} :
    l.mapM f = .ok bs ↔ List.Forall₂ (fun a b => f a = .ok b) l bs := by
  induction l generalizing bs with
  | nil => simp [List.forall₂_nil_left_iff, pure, Except.pure, eq_comm]
  | cons a rest ih =>
    rw [List.mapM_cons, List.forall₂_cons_left_iff]
    simp only [← ih]
    cases f a with
    | error e => simp [bind, Except.bind]
    | ok b =>
      cases rest.mapM f with
      | error e => simp [bind, Except.bind]
      | ok found => simp [bind, Except.bind, pure, Except.pure, eq_comm]

/-- The items of an array are written one after another. -/
theorem writtenValue_array (depth : Nat) (vs : List Json) :
    writtenValue (depth + 1) (.array vs) =
      (vs.mapM (writtenValue depth)).map Json.array := by
  have items : (Json.itemsFault? depth vs).elim (.ok vs) (fun fault => .error (.unwritable fault)) =
      vs.mapM (writtenValue depth) := by
    induction vs with
    | nil => rfl
    | cons v rest ih =>
      rw [List.mapM_cons, ← ih, Json.itemsFault?, writtenValue, Json.checked]
      cases v.fault? depth with
      | some fault => rfl
      | none => cases Json.itemsFault? depth rest <;> rfl
  rw [← items, writtenValue, Json.checked, Json.fault?]
  cases Json.itemsFault? depth vs <;> rfl

/-- The responses of a batch are written as the array of what they say. -/
theorem writtenAll_eq {rs : List Response} {vs : List Json} (h : List.Forall₂ Response.Says rs vs)
    (depth : Nat) : writtenAll depth rs = writtenValue depth (.array vs) := by
  cases depth with
  | zero => rfl
  | succ depth =>
    have same : rs.mapM (Response.written depth) = vs.mapM (writtenValue depth) := by
      induction h with
      | nil => rfl
      | cons speaks _ ih => rw [List.mapM_cons, List.mapM_cons, speaks.written_eq, ih]
    rw [writtenValue_array, ← same, writtenAll]
    cases rs.mapM (Response.written depth) <;> rfl

theorem writtenAll_eq_ok_iff {rs : List Response} {depth : Nat} {v : Json} :
    writtenAll depth rs = .ok v ↔
      ∃ vs, List.Forall₂ Response.Says rs vs ∧ (Json.array vs).Fits digitLimit depth ∧
        v = .array vs := by
  constructor
  · intro h
    cases depth with
    | zero => cases h
    | succ depth =>
      rw [writtenAll] at h
      cases each : rs.mapM (Response.written depth) with
      | error fault => simp [each, bind, Except.bind] at h
      | ok vs =>
        have said := mapM_eq_ok_iff.1 each
        simp only [written_eq_ok_iff] at said
        obtain rfl : Json.array vs = v := by
          simpa [each, bind, Except.bind, pure, Except.pure] using h
        refine ⟨vs, said.imp fun _ _ => And.left, Json.fits_array_iff.2 fun w mem => ?_, rfl⟩
        clear each h
        induction said with
        | nil => exact absurd mem (by simp)
        | cons own _ ih =>
          rcases List.mem_cons.1 mem with rfl | behind
          · exact own.2
          · exact ih behind
  · rintro ⟨vs, said, fits, rfl⟩
    rw [writtenAll_eq said, writtenValue_eq_ok_iff]
    exact ⟨fits, rfl⟩

/-! ## Answers -/

/-- The text of what is said in answer, if there is anything, or why it is not written. -/
def writtenAnswer (depth : Nat) : Option Json → Except ServeFault (Option String)
  | none => .ok none
  | some v => ((writtenValue depth v).mapError .unwritten).map fun w => some (Json.write .spaced w)

variable {depth : Nat}

theorem writtenAnswer_of_fits {v : Json} (h : v.Fits digitLimit depth) :
    writtenAnswer depth (some v) = .ok (some (Json.write .spaced v)) := by
  rw [writtenAnswer, writtenValue_eq_ok_iff.2 ⟨h, rfl⟩]
  rfl

/-- An answer is the text of what is said, which has to fit. -/
theorem writtenAnswer_eq_ok_iff {answer : Option Json} {text : Option String} :
    writtenAnswer depth answer = .ok text ↔
      (∀ v ∈ answer, v.Fits digitLimit depth) ∧ text = answer.map (Json.write .spaced) := by
  cases answer with
  | none => simp [writtenAnswer, eq_comm]
  | some v =>
    constructor
    · intro h
      rw [writtenAnswer] at h
      cases written : writtenValue depth v with
      | error fault => simp [written, Except.mapError, Except.map] at h
      | ok w =>
        obtain ⟨fits, rfl⟩ := writtenValue_eq_ok_iff.1 written
        refine ⟨by simpa using fits, ?_⟩
        simpa [written, Except.mapError, Except.map, eq_comm] using h
    · rintro ⟨fits, rfl⟩
      exact writtenAnswer_of_fits (fits v rfl)

theorem writtenAnswer_eq_none_iff {answer : Option Json} :
    writtenAnswer depth answer = .ok none ↔ answer = none := by
  rw [writtenAnswer_eq_ok_iff]
  cases answer <;> simp

/-- The text of one response is that of what it says. -/
theorem encodeOne_eq {r : Response} {v : Json} (h : r.Says v) (depth : Nat) :
    (encodeOne depth r).map some = writtenAnswer depth (some v) := by
  rw [encodeOne, h.written_eq, writtenAnswer]
  cases writtenValue depth v <;> rfl

theorem encodeOne_eq_ok_iff {r : Response} {text : String} :
    encodeOne depth r = .ok text ↔
      ∃ v, r.Says v ∧ v.Fits digitLimit depth ∧ text = Json.write .spaced v := by
  rw [encodeOne]
  constructor
  · intro h
    cases written : r.written depth with
    | error fault => simp [written, Except.mapError, Except.map] at h
    | ok v =>
      obtain ⟨speaks, fits⟩ := written_eq_ok_iff.1 written
      refine ⟨v, speaks, fits, ?_⟩
      simpa [written, Except.mapError, Except.map, eq_comm] using h
  · rintro ⟨v, speaks, fits, rfl⟩
    rw [written_eq_ok_iff.2 ⟨speaks, fits⟩]
    rfl

/-- What a batch says in answer: nothing, or the array of what its responses say. -/
def arrayOf (vs : List Json) : Option Json := if vs = [] then none else some (.array vs)

/-- The text of the responses of a batch is that of what they say. -/
theorem encodeAll_eq {rs : List Response} {vs : List Json} (h : List.Forall₂ Response.Says rs vs)
    (depth : Nat) : encodeAll depth rs = writtenAnswer depth (arrayOf vs) := by
  cases h with
  | nil => rfl
  | cons speaks rest =>
    rw [encodeAll, if_neg (by simp), writtenAll_eq (.cons speaks rest), arrayOf, if_neg (by simp),
      writtenAnswer]
    cases writtenValue depth (.array _) <;> rfl

theorem encodeAll_eq_ok_iff {rs : List Response} {answer : Option String} :
    encodeAll depth rs = .ok answer ↔
      ∃ vs, List.Forall₂ Response.Says rs vs ∧ writtenAnswer depth (arrayOf vs) = .ok answer := by
  constructor
  · intro h
    by_cases said : ∃ vs, List.Forall₂ Response.Says rs vs
    · obtain ⟨vs, said⟩ := said
      exact ⟨vs, said, (encodeAll_eq said depth).symm.trans h⟩
    · -- Something is left unsaid, so there are responses, and they are not written.
      have some_ : rs.isEmpty = false := by
        cases rs with
        | nil => exact absurd ⟨[], .nil⟩ said
        | cons r rest => rfl
      rw [encodeAll, some_] at h
      cases written : writtenAll depth rs with
      | error fault => simp [written, Except.mapError, Except.map] at h
      | ok v =>
        obtain ⟨vs, all, -⟩ := writtenAll_eq_ok_iff.1 written
        exact absurd ⟨vs, all⟩ said
  · rintro ⟨vs, said, written⟩
    rw [encodeAll_eq said, written]

end LedgerGateway.Rpc
