import LedgerGateway.Proofs.BatchAnswers
import LedgerGateway.Proofs.BodyReading
import LedgerGateway.Proofs.MethodEndings

/-!
# Which bodies are answered

The dispatcher answers every body that is read, as long as what is said in answer can be written.
For the account methods it can: they reply with a text or null, and the id of a request that was
read lies in the response as deep as in the request. A body that is malformed is answered with a
parse error. What is left are the bodies that pass a limit, the length of an integer or the depth of
a value: they are not answered at all, though they may be JSON of the strict grammar.

* `exists_fitting` — what is said in answer can be written where the id of the request can.
* `handleValue_answers` — a value within the limits is answered.
* `survives_iff` — a body is answered as it should be exactly if it passes no limit.
-/

namespace LedgerGateway.Rpc

open Decimal (digitLimit)

/-! ## What can be written -/

/-- What the methods of the table end with can be written in an object inside an object. -/
def MethodTable.Brief (methods : MethodTable) (client : LedgerClient) : Prop :=
  ∀ name m, methods.find? name = some m → ∀ params, ∃ member,
    EndsIn (m params client).value member ∧ member.2.Fits digitLimit 1

variable {methods : MethodTable} {client : LedgerClient}

theorem MethodTable.Brief.plain (h : methods.Brief client) : methods.Plain client := by
  intro name m found params
  obtain ⟨member, ends, -⟩ := h name m found params
  exact ⟨member, ends⟩

theorem accountTable_brief (ordinary : client.Ordinary) : accountTable.Brief client :=
  fun _ _ found params => (handled_accountTable ordinary found params).endsIn

/-- The id lies one step inside a request. -/
theorem fits_carriedId {digits depth : Nat} {v : Json} (h : v.Fits digits (depth + 1)) :
    (carriedId v).Fits digits depth := by
  cases v with
  | object ms =>
    have all := Json.fits_object_iff.1 h
    show ((ms.lookup "id").getD .null).Fits digits depth
    cases found : ms.lookup "id" with
    | none => exact .null
    | some id => exact all ("id", id) (Association.mem_of_lookup found)
  | _ => exact .null

theorem fits_members {depth : Nat} {id : Json} {member : String × Json}
    (hid : id.Fits digitLimit depth) (hmember : member.2.Fits digitLimit depth) :
    (members id member).Fits digitLimit (depth + 1) := by
  refine .object fun m mem => ?_
  simp only [List.mem_cons, List.not_mem_nil, or_false] at mem
  obtain rfl | rfl | rfl := mem
  · exact .string
  · exact hid
  · exact hmember

/-- Where the id of a request can be written, what is said in answer can. -/
theorem exists_fitting (h : methods.Brief client) {v : Json} {depth : Nat} (some_ : 1 ≤ depth)
    (hid : (carriedId v).Fits digitLimit depth) :
    ∃ response, Yields methods client v response ∧
      ∀ w ∈ response, w.Fits digitLimit (depth + 1) := by
  have brief {member : String × Json} (fits : member.2.Fits digitLimit 1) :
      (members (carriedId v) member).Fits digitLimit (depth + 1) :=
    fits_members hid (fits.mono (Nat.le_refl _) some_)
  by_cases ha : ∃ name, Asks v name
  · obtain ⟨name, asks⟩ := ha
    obtain ⟨member, ends, fits⟩ : ∃ member,
        EndsIn (call methods client name (carriedParams v)).value member ∧
          member.2.Fits digitLimit 1 := by
      cases found : methods.find? name with
      | none =>
        rw [call_of_unknown found]
        refine ⟨_, .refused _, fits_error ?_⟩
        show Decimal.digitCount 32601 ≤ digitLimit
        decide
      | some m =>
        rw [call_of_found found]
        exact h name m found _
    by_cases silent : Silent v
    · obtain ⟨-, hs, -⟩ := handleSingle_of_asks methods client asks
      exact ⟨none, .nothing ((hs silent).trans ends.dropped_eq), by simp⟩
    · exact ⟨_, yields_of_endsIn asks silent ends, by simpa using brief fits⟩
  · have fits : (Error.invalidRequest (refusal v)).toJson.Fits digitLimit 1 := by
      refine fits_error ?_
      show Decimal.digitCount 32600 ≤ digitLimit
      decide
    refine ⟨_, yields_refused fun name asks => ha ⟨name, asks⟩, ?_⟩
    simpa using brief fits

/-! ## Answers -/

/-- A value that was read is answered, with a text or with nothing, if it is within the limits. -/
theorem handleValue_answers (room : Json.Room) (h : methods.Brief client) {v : Json}
    (fits : v.Fits digitLimit room.depth) :
    ∃ answer, (handleValue room.depth methods client v).value = .ok answer := by
  obtain ⟨_, three⟩ := room
  obtain ⟨depth, rfl⟩ := Nat.exists_eq_add_of_le' three
  by_cases ha : ∃ requests, v = .array requests
  · obtain ⟨requests, rfl⟩ := ha
    by_cases none_ : requests = []
    · subst none_
      exact ⟨_, rfl⟩
    · have each := Json.fits_array_iff.1 fits
      obtain ⟨responses, both⟩ := exists_forall₂ fun e mem =>
        exists_fitting h (Nat.le_add_left 1 depth) (fits_carriedId (each e mem))
      have written : ∀ w ∈ arrayOf responses.reduceOption, w.Fits digitLimit (depth + 3) := by
        intro w mem
        have all : w = .array responses.reduceOption := by
          rw [arrayOf] at mem
          split at mem
          · cases mem
          · exact (Option.mem_some_iff.1 mem).symm
        rw [all, Json.fits_array_iff]
        intro u there
        obtain ⟨e, -, own⟩ := exists_of_mem_right both (List.reduceOption_mem_iff.1 there)
        exact own.2 u rfl
      refine ⟨(arrayOf responses.reduceOption).map (Json.write .spaced), ?_⟩
      rw [handleValue_batch none_ (both.imp fun _ _ => And.left)]
      exact writtenAnswer_eq_ok_iff.2 ⟨written, rfl⟩
  · have single : ∀ items, v ≠ .array items := fun items same => ha ⟨items, same⟩
    obtain ⟨response, yields, written⟩ :=
      exists_fitting h (Nat.le_add_left 1 (depth + 1)) (fits_carriedId fits)
    refine ⟨response.map (Json.write .spaced), ?_⟩
    rw [(handleValue_single single).1, yields.answerTo_eq]
    exact writtenAnswer_eq_ok_iff.2 ⟨written, rfl⟩

/-! ## Surviving a body -/

/-- A body that was read elsewhere is within the limits. Text and bytes are read within them. -/
def Body.Bounded (depth : Nat) : Body → Prop
  | .value v => v.Fits digitLimit depth
  | _ => True

/-- What a body spells is within the limits. -/
theorem Body.Spells.fits {depth : Nat} {v : Json} {body : Body} (h : body.Spells depth v)
    (bounded : body.Bounded depth) : v.Fits digitLimit depth := by
  cases body with
  | text s => exact Json.WholeText.fits (fun _ => id) h
  | bytes b =>
    obtain ⟨text, -, whole⟩ := h
    exact whole.fits fun _ => id
  | value w =>
    cases h
    exact bounded

/-- The dispatcher answers a body, with a text or with nothing, and with an error if the body
cannot be read. -/
def Survives (room : Json.Room) (methods : MethodTable) (client : LedgerClient) (body : Body) :
    Prop :=
  (∃ answer, (handle room methods client body).value = .ok answer) ∧
    ((¬ ∃ v, body.Spells room.depth v) →
      ∃ e, (handle room methods client body).value = .ok (some (errorText e)))

variable {room : Json.Room} {body : Body}

theorem handle_of_spells {v : Json} (h : body.Spells room.depth v) (client : LedgerClient) :
    handle room methods client body = handleValue room.depth methods client v := by
  rw [handle, (body.read_eq_ok_iff).2 h]

theorem handle_of_overruns (h : body.Overruns room.depth) (methods : MethodTable)
    (client : LedgerClient) : ∃ fault, (handle room methods client body).value = .error fault := by
  obtain ⟨fault, read⟩ := body.read_beyondLimit_iff.2 h
  exact ⟨fault, by rw [handle, read]; rfl⟩

theorem handle_of_unread (unread : ¬ ∃ v, body.Spells room.depth v)
    (within : ¬ body.Overruns room.depth) (methods : MethodTable) (client : LedgerClient) :
    ∃ reason, (handle room methods client body).value =
      .ok (some (errorText (.parseError reason))) := by
  cases read : body.read room.depth with
  | ok v => exact absurd ⟨v, body.read_eq_ok_iff.1 read⟩ unread
  | error fault =>
    cases fault with
    | unreadable reason => exact ⟨reason, by rw [handle, read]; rfl⟩
    | beyondLimit fault => exact absurd (body.read_beyondLimit_iff.1 ⟨fault, read⟩) within

/-- A body that passes a limit is not answered, whatever the methods are. -/
theorem not_survives_of_overruns (h : body.Overruns room.depth) (methods : MethodTable)
    (client : LedgerClient) : ¬ Survives room methods client body := by
  rintro ⟨⟨answer, answered⟩, -⟩
  obtain ⟨fault, failed⟩ := handle_of_overruns h methods client
  exact absurd (answered.symm.trans failed) (by simp)

/-- A body is answered as it should be exactly if it passes no limit. -/
theorem survives_iff (room : Json.Room) {client : LedgerClient} (ordinary : client.Ordinary)
    {body : Body} (bounded : body.Bounded room.depth) :
    Survives room accountTable client body ↔ ¬ body.Overruns room.depth := by
  constructor
  · exact fun survives overrun => not_survives_of_overruns overrun accountTable client survives
  · intro within
    by_cases spells : ∃ v, body.Spells room.depth v
    · obtain ⟨v, spelt⟩ := spells
      refine ⟨?_, fun unread => absurd ⟨v, spelt⟩ unread⟩
      rw [handle_of_spells spelt]
      exact handleValue_answers room (accountTable_brief ordinary) (spelt.fits bounded)
    · obtain ⟨reason, answered⟩ := handle_of_unread spells within accountTable client
      exact ⟨⟨_, answered⟩, fun _ => ⟨_, answered⟩⟩

/-- A request that is not closed is answered. -/
theorem survives_open_request :
    Ledger.fresh.client.Ordinary ∧ (Body.text "\x7b").Bounded 3 ∧
      (Survives ⟨3, Nat.le_refl 3⟩ accountTable Ledger.fresh.client (.text "\x7b") ↔
        ¬ (Body.text "\x7b").Overruns 3) :=
  ⟨Ledger.fresh.ordinary_client, trivial,
    survives_iff ⟨3, Nat.le_refl 3⟩ Ledger.fresh.ordinary_client trivial⟩

/-- An integer of five thousand digits passes the limit. -/
theorem overruns_digits (depth : Nat) :
    (Body.text (String.ofList ('1' :: List.replicate 4999 '1'))).Overruns depth := by
  rw [Body.Overruns, String.toList_ofList]
  exact Json.overruns_digits _ (by decide)

/-- An integer of five thousand digits is not answered, and no more are five thousand brackets. -/
theorem not_survives_digits_or_brackets :
    ¬ Survives .thousand accountTable Ledger.fresh.client
        (.text (String.ofList ('1' :: List.replicate 4999 '1'))) ∧
      ¬ Survives .thousand accountTable Ledger.fresh.client
        (.text (String.ofList (List.replicate 5000 '['))) := by
  have brackets : (Body.text (String.ofList (List.replicate 5000 '['))).Overruns 1000 := by
    rw [Body.Overruns, String.toList_ofList]
    exact Json.overruns_brackets 1000 3999
  exact ⟨not_survives_of_overruns (overruns_digits 1000) _ _,
    not_survives_of_overruns brackets _ _⟩

end LedgerGateway.Rpc
