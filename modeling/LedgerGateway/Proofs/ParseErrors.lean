import LedgerGateway.Proofs.Answering
import LedgerGateway.Proofs.WrittenText

/-!
# Which bodies are answered with a parse error

A body that is malformed is answered with the error -32700 and no id, and nothing else is: every
other answer without an id carries the error -32600. So the parse errors tell exactly which bodies
were not read. For bytes these are not the ones that are no JSON in UTF-8. Bytes in another
encoding, behind a byte order mark or with the words of the liberal grammar are read as well, and
bytes that pass a limit are not answered.

* `not_isParseError_handleValue` — a value that was read is never answered with a parse error.
* `parseErrorsExact_iff` — when the parse errors are those of bytes that are no JSON in UTF-8.
-/

namespace LedgerGateway.Rpc

open Hex (Bytes)
open Json (WholeText StrictText writeChars writeString)
open Decimal (digitLimit)

/-- The answer is the error -32700 without an id. -/
def IsParseError (answer : Except ServeFault (Option String)) : Prop :=
  ∃ message, answer = .ok (some (errorText ⟨-32700, message⟩))

/-! ## The texts of responses -/

/-- What stands behind the id of a response. -/
def behindId (outcome : String × Json) : List Char :=
  Json.Style.spaced.comma ++ (writeString true outcome.1 ++ (Json.Style.spaced.colon
    ++ (writeChars .spaced outcome.2 ++ ['}'])))

/-- What stands in front of the id of a response. -/
def beforeId : List Char :=
  '{' :: (writeString true "jsonrpc" ++ (Json.Style.spaced.colon ++ (writeString true "2.0"
    ++ (Json.Style.spaced.comma ++ (writeString true "id" ++ Json.Style.spaced.colon)))))

theorem writeChars_members (id : Json) (outcome : String × Json) :
    writeChars .spaced (members id outcome) =
      beforeId ++ (writeChars .spaced id ++ behindId outcome) := by
  simp [members, beforeId, behindId, Json.writeChars, Json.writeMembers, Json.Style.spaced]

/-- Responses of one text have the same text from the id on. -/
theorem eq_of_write {id id' : Json} {outcome outcome' : String × Json}
    (h : Json.write .spaced (members id outcome) = Json.write .spaced (members id' outcome')) :
    writeChars .spaced id ++ behindId outcome = writeChars .spaced id' ++ behindId outcome' := by
  replace h := String.ofList_injective h
  rw [writeChars_members, writeChars_members] at h
  exact List.append_cancel_left h

/-- Only a response without an id has the text of an error without one. -/
theorem id_eq_null {id : Json} {outcome : String × Json} {e : Error}
    (h : Json.write .spaced (members id outcome) = errorText e) : id = .null := by
  -- Behind the name of the id the texts agree, so this id begins as `null` does.
  have same := congrArg List.head? (eq_of_write h)
  have head : (writeChars .spaced id).head? = some 'n' := by
    cases text : writeChars .spaced id with
    | nil =>
      rw [text] at same
      exact absurd same (by simp [behindId, Json.Style.spaced, Json.writeChars])
    | cons c t =>
      rw [text] at same
      exact same
  exact Json.eq_null_of_head head

/-- A refusal of the form of a request is no parse error. -/
theorem invalidRequest_ne {message message' : String} :
    errorText (.invalidRequest message) ≠ errorText ⟨-32700, message'⟩ := by
  intro h
  have same := eq_of_write h
  have code : (Decimal.intText (-32600)).toList = "-32600".toList := by decide
  have code' : (Decimal.intText (-32700)).toList = "-32700".toList := by decide
  simp only [behindId, Error.toJson, Json.writeChars, Error.invalidRequest, code, code'] at same
  exact absurd same (by simp)

/-! ## The answers to values -/

variable {depth : Nat}

theorem map_some_eq_ok_iff {x : Except ServeFault String} {text : String} :
    x.map some = .ok (some text) ↔ x = .ok text := by
  cases x <;> simp [Except.map]

theorem writtenAnswer_array_ne {responses : List Json} {text : String}
    (h : writtenAnswer depth (some (.array responses)) = .ok (some text)) (e : Error) :
    text ≠ errorText e := by
  obtain ⟨-, rfl⟩ := (writtenAnswer_eq_ok_iff.1 h).imp_right Option.some.inj
  -- A batch is written with a bracket in front, an error with a brace.
  intro eq
  have chars := String.ofList_injective eq
  cases responses <;> exact absurd chars (by simp [Json.writeChars])

/-- No response to a request is a parse error. -/
theorem encodeOne_ne_errorText {methods : MethodTable} {client : LedgerClient} {v : Json}
    {r : Response} (response : (handleSingle methods client v).value = .ok (some r))
    (message : String) : encodeOne depth r ≠ .ok (errorText ⟨-32700, message⟩) := by
  intro encoded
  obtain ⟨w, said, -, same⟩ := encodeOne_eq_ok_iff.1 encoded
  by_cases asks : ∃ name, Asks v name
  · obtain ⟨owed, outcome, rfl⟩ := handleSingle_response methods client response
    obtain ⟨member, -, rfl⟩ := said
    exact owed ⟨asks, carriedId_eq_null_iff.1 (id_eq_null same.symm)⟩
  · rw [handleSingle_refused methods client fun name h => asks ⟨name, h⟩] at response
    obtain rfl : Response.failure (carriedId v) (.invalidRequest (refusal v)) = r := by
      simpa using response
    obtain rfl := said.unique (says_failure _ _)
    rw [id_eq_null same.symm] at same
    exact invalidRequest_ne same.symm

/-- A value that was read is never answered with a parse error. -/
theorem not_isParseError_handleValue (methods : MethodTable) (client : LedgerClient) (v : Json) :
    ¬ IsParseError (handleValue depth methods client v).value := by
  rintro ⟨message, answered⟩
  by_cases batch : ∃ requests, v = .array requests
  · obtain ⟨requests, rfl⟩ := batch
    by_cases empty : requests = []
    · subst empty
      exact invalidRequest_ne (Option.some.inj (Except.ok.inj answered))
    · obtain ⟨responses, -, written⟩ := (handleValue_batch_eq_ok_iff empty).1 answered
      rw [arrayOf] at written
      split at written
      · exact absurd written (by simp [writtenAnswer])
      · exact writtenAnswer_array_ne written _ rfl
  · rw [(handleValue_single fun items same => batch ⟨items, same⟩).1, answerTo] at answered
    split at answered
    · cases answered
    · cases answered
    · next response => exact encodeOne_ne_errorText response message (map_some_eq_ok_iff.1 answered)

/-! ## The answers to bodies -/

variable {room : Json.Room} {body : Body}

/-- The parse errors are the bodies that are malformed. -/
theorem isParseError_iff (methods : MethodTable) (client : LedgerClient) (body : Body) :
    IsParseError (handle room methods client body).value ↔
      (¬ ∃ v, body.Spells room.depth v) ∧ ¬ body.Overruns room.depth := by
  constructor
  · intro answered
    refine ⟨?_, fun overrun => ?_⟩
    · rintro ⟨v, spells⟩
      rw [handle_of_spells spells] at answered
      exact not_isParseError_handleValue methods client v answered
    · obtain ⟨message, answered⟩ := answered
      obtain ⟨fault, failed⟩ := handle_of_overruns overrun methods client
      exact absurd (answered.symm.trans failed) (by simp)
  · rintro ⟨unread, within⟩
    obtain ⟨reason, answered⟩ := handle_of_unread unread within methods client
    exact ⟨_, answered⟩

/-- The parse errors are the answers to the bytes that are no JSON in UTF-8, and all other bytes
reach the checks on requests. -/
def ParseErrorsExact (room : Json.Room) (methods : MethodTable) (client : LedgerClient) (b : Bytes) :
    Prop :=
  (IsParseError (handle room methods client (.bytes b)).value ↔ ¬ IsUtf8Json b) ∧
    (IsUtf8Json b → ∃ v, (Body.bytes b).Spells room.depth v ∧
      handle room methods client (.bytes b) = handleValue room.depth methods client v)

/-- The parse errors are exact at the bytes that pass no limit and whose text, if it spells a value
at all, is of the strict grammar and has these bytes for its UTF-8. -/
theorem parseErrorsExact_iff (room : Json.Room) (methods : MethodTable) (client : LedgerClient)
    (b : Bytes) :
    ParseErrorsExact room methods client b ↔
      ¬ (Body.bytes b).Overruns room.depth ∧
        ∀ text v, Text.decodeDetected b = .ok text →
          WholeText Json.words digitLimit room.depth v text →
          StrictText text ∧ b = Text.Utf8.encode (String.ofList text) := by
  rw [ParseErrorsExact, isParseError_iff]
  -- JSON in UTF-8 has to be read, all else has to be refused; a limit that is passed spoils both.
  by_cases utf8 : IsUtf8Json b
  · constructor
    · rintro ⟨-, reached⟩
      obtain ⟨v, spells, -⟩ := reached utf8
      exact ⟨spells.not_overruns, fun text v decoded _ => (isUtf8Json_iff decoded).1 utf8⟩
    · rintro ⟨within, -⟩
      obtain ⟨v, spells⟩ := (utf8.read room.depth).resolve_right within
      refine ⟨?_, fun _ => ⟨v, spells, handle_of_spells spells client⟩⟩
      exact ⟨fun unread => absurd ⟨v, spells⟩ unread.1, fun not => absurd utf8 not⟩
  · constructor
    · rintro ⟨exact_, -⟩
      obtain ⟨unread, within⟩ := exact_.2 utf8
      exact ⟨within, fun text v decoded whole => absurd ⟨v, text, decoded, whole⟩ unread⟩
    · rintro ⟨within, strict⟩
      have unread : ¬ ∃ v, (Body.bytes b).Spells room.depth v := by
        rintro ⟨v, text, decoded, whole⟩
        exact utf8 ((isUtf8Json_iff decoded).2 (strict text v decoded whole))
      refine ⟨?_, fun h => absurd h utf8⟩
      exact ⟨fun _ => utf8, fun _ => ⟨unread, within⟩⟩

/-- An empty array in UTF-16 behind a byte order mark is no JSON in UTF-8, and it is read. -/
theorem not_parseErrorsExact_utf16 :
    ¬ ParseErrorsExact .thousand accountTable Ledger.fresh.client
      [0xFF, 0xFE, 0x5B, 0x00, 0x5D, 0x00] := by
  have decoded : Text.decodeDetected [0xFF, 0xFE, 0x5B, 0x00, 0x5D, 0x00] = .ok ['[', ']'] := by
    show Except.ok (Text.ofUnits16 [0x5B, 0x5D]) = _
    rfl
  have gap : Json.Gap [] := fun c mem => absurd mem (by simp)
  have spells : (Body.bytes [0xFF, 0xFE, 0x5B, 0x00, 0x5D, 0x00]).Spells 1000
      (.array []) :=
    ⟨_, decoded, [], _, [], gap, .emptyArray ⟨[], gap, rfl⟩, gap, rfl⟩
  have foreign : ¬ IsUtf8Json [0xFF, 0xFE, 0x5B, 0x00, 0x5D, 0x00] := by
    rw [isUtf8Json_iff decoded, Text.Utf8.encode_ofList]
    exact fun same => absurd same.2 (by decide)
  rintro ⟨exact_, -⟩
  have parseError := exact_.2 foreign
  rw [isParseError_iff] at parseError
  exact parseError.1 ⟨_, spells⟩

end LedgerGateway.Rpc
