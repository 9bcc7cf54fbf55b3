import LedgerGateway.Proofs.ParseErrors
import LedgerGateway.Proofs.ReadableAnswers

/-!
# The two forms of an answer

A request with an id is answered with a result or with an error under that id. The text tells which
of the two it is, and which error, whatever the id is.

* `handle_of_asks` — a body of one request is answered as the method that it asks for ends.
* `resultAnswer_ne_errorAnswer`, `resultAnswer_inj`, `errorAnswer_inj` — what the text of an answer
  tells.
-/

namespace LedgerGateway.Json

/-- Values without floating point numbers in which each name occurs once differ in their texts. -/
theorem writeChars_inj {style : Style} (regular : style.Regular) {v w : Json} (hv : v.Floatless)
    (hw : w.Floatless) (dv : v.Distinct) (dw : w.Distinct)
    (h : writeChars style v = writeChars style w) : v = w := by
  have spelt := (wholeText_write_iff regular hv.writable).2
    dv.settle_eq.symm
  rw [h] at spelt
  have read := (wholeText_write_iff regular hw.writable).1 spelt
  rw [read, dw.settle_eq]

end LedgerGateway.Json

namespace LedgerGateway.Rpc

open Decimal (digitLimit)

/-- The answer with a result to a request with an id. -/
def resultAnswer (id result : Json) : Except ServeFault (Option String) :=
  .ok (some (Json.write .spaced (members id ("result", result))))

/-- The answer with an error to a request with an id. -/
def errorAnswer (id : Json) (e : Error) : Except ServeFault (Option String) :=
  .ok (some (Json.write .spaced (members id ("error", e.toJson))))

/-- Answers of one text that carry the same id say the same behind it. -/
theorem behindId_eq {id : Json} {outcome outcome' : String × Json}
    (h : Json.write .spaced (members id outcome) = Json.write .spaced (members id outcome')) :
    behindId outcome = behindId outcome' :=
  List.append_cancel_left (eq_of_write h)

theorem resultAnswer_ne_errorAnswer (id result : Json) (e : Error) :
    resultAnswer id result ≠ errorAnswer id e := by
  intro h
  have same := behindId_eq (Option.some.inj (Except.ok.inj h))
  simp [behindId, Json.writeString, Json.writeChar, Json.isPlain] at same

theorem resultAnswer_inj {id v w : Json} (hv : v.Floatless) (hw : w.Floatless) (dv : v.Distinct)
    (dw : w.Distinct) : resultAnswer id v = resultAnswer id w ↔ v = w := by
  constructor
  · intro h
    have same := behindId_eq (Option.some.inj (Except.ok.inj h))
    simp only [behindId, List.append_cancel_left_eq, List.append_cancel_right_eq] at same
    exact Json.writeChars_inj Json.spaced_regular hv hw dv dw same
  · rintro rfl
    rfl

theorem distinct_error (e : Error) : e.toJson.Distinct := by
  refine .object (by simp [Association.keys]) fun m mem => ?_
  simp only [List.mem_cons, List.not_mem_nil, or_false] at mem
  obtain rfl | rfl := mem
  · exact .int
  · exact .string

theorem errorAnswer_inj {id : Json} {e e' : Error} :
    errorAnswer id e = errorAnswer id e' ↔ e = e' := by
  constructor
  · intro h
    have same := behindId_eq (Option.some.inj (Except.ok.inj h))
    simp only [behindId, List.append_cancel_left_eq, List.append_cancel_right_eq] at same
    have values := Json.writeChars_inj Json.spaced_regular (floatless_error e) (floatless_error e')
      (distinct_error e) (distinct_error e') same
    obtain ⟨code, message⟩ := e
    obtain ⟨code', message'⟩ := e'
    simpa [Error.toJson] using values
  · rintro rfl
    rfl

variable {methods : MethodTable} {client : LedgerClient} {room : Json.Room} {body : Body} {v : Json}

/-- The id of a request can be written inside a response. -/
theorem Body.Spells.carries (spelt : body.Spells room.depth v) (bounded : body.Bounded room.depth) :
    (carriedId v).Fits digitLimit (room.depth - 1) := by
  have fits := spelt.fits bounded
  obtain ⟨depth, three⟩ := room
  obtain ⟨depth, rfl⟩ := Nat.exists_eq_add_of_le' three
  exact fits_carriedId fits

/-- What is told of the end of a method is the answer, where the id can be written. -/
theorem Yields.handle_eq {member : String × Json}
    (yields : Yields methods client v (some (members (carriedId v) member)))
    (single : ∀ items, v ≠ .array items) (spelt : body.Spells room.depth v)
    (bounded : body.Bounded room.depth) (fits : member.2.Fits digitLimit 1) :
    (handle room methods client body).value =
      .ok (some (Json.write .spaced (members (carriedId v) member))) := by
  have carries := spelt.carries bounded
  rw [handle_of_spells spelt, (handleValue_single single).1, yields.answerTo_eq]
  obtain ⟨depth, three⟩ := room
  obtain ⟨depth, rfl⟩ := Nat.exists_eq_add_of_le' three
  exact writtenAnswer_of_fits
    (fits_members carries (fits.mono (Nat.le_refl _) (Nat.le_add_left 1 (depth + 1))))

/-- A body of one request that asks for a method and waits is answered as the method ends. -/
theorem handle_of_asks {name : String} {m : Method} (spelt : body.Spells room.depth v)
    (bounded : body.Bounded room.depth) (asks : Asks v name) (found : methods.find? name = some m)
    (owed : carriedId v ≠ .null) {member : String × Json}
    (ends : EndsIn (m (carriedParams v) client).value member) (fits : member.2.Fits digitLimit 1) :
    (handle room methods client body).value =
      .ok (some (Json.write .spaced (members (carriedId v) member))) := by
  have waits : ¬ Silent v := fun silent => owed ((silent_iff asks).1 silent)
  have single : ∀ items, v ≠ .array items := by
    obtain ⟨ms, rfl⟩ := asks.isObject
    simp
  exact (yields_of_ends ⟨name, m, asks, found, rfl⟩ waits ends).handle_eq single spelt bounded fits

/-! ## The account methods -/

section Account

variable {name : String} {m : Method} (spelt : body.Spells room.depth v)
  (bounded : body.Bounded room.depth) (asks : Asks v name)
  (found : accountTable.find? name = some m) (owed : carriedId v ≠ .null)

include spelt bounded asks found owed

/-- What an account method replies with is short. -/
theorem answer_of_reply {w : Json} (ended : (m (carriedParams v) client).value = .ok (.value w)) :
    (handle room accountTable client body).value = resultAnswer (carriedId v) w := by
  have ends : EndsIn (m (carriedParams v) client).value ("result", w) := by
    rw [ended]
    exact .value w
  have fits : w.Fits digitLimit 1 := by
    cases accountTable_textual found ended with
    | null => exact .null
    | text s => exact .string
  exact handle_of_asks spelt bounded asks found owed ends fits

theorem answer_of_refusal {e : Error}
    (ended : (m (carriedParams v) client).value = .error (.refused e))
    (short : Decimal.digitCount e.code.natAbs ≤ digitLimit) :
    (handle room accountTable client body).value = errorAnswer (carriedId v) e := by
  have ends : EndsIn (m (carriedParams v) client).value ("error", e.toJson) := by
    rw [ended]
    exact .refused e
  exact handle_of_asks spelt bounded asks found owed ends (fits_error short)

theorem answer_of_crash {c : Crash}
    (ended : (m (carriedParams v) client).value = .error (.crashed c)) :
    (handle room accountTable client body).value = errorAnswer (carriedId v) .internal := by
  have ends : EndsIn (m (carriedParams v) client).value ("error", Error.internal.toJson) := by
    rw [ended]
    exact .crashed c
  have short : Decimal.digitCount Error.internal.code.natAbs ≤ digitLimit := by decide
  exact handle_of_asks spelt bounded asks found owed ends (fits_error short)

end Account

end LedgerGateway.Rpc
