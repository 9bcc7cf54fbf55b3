import LedgerGateway.Cli.Program
import LedgerGateway.Proofs.OneResponse
import LedgerGateway.Proofs.RequestOutcomes
import LedgerGateway.Proofs.WrittenText

/-!
# The command that asks the gateway

The command writes a request, posts it, reads the reply and shows what it holds. Against the gateway
that serves the account methods this comes to the same as to call the method: its value is printed
as JSON, or an error in one line. The texts that are written on one side are those that are read on
the other, whatever characters the arguments hold. Only what is printed at last is not always what
was told: no terminal is meant to read it, so control sequences in a message are left out.

* `Colour.remove_of_not_mem` — what holds no escape character is printed as it is.
* `Relays` — the gateway stands behind a URL; `Relays.reply_eq` is the reply to a text.
* `conclude_of_returns`, `conclude_of_refusedWith` — what the command makes of the reply.
* `run_of_returns`, `run_of_refusedWith` — how its run ends.
* `query_shows_outcome` — the command against the methods.
-/

namespace LedgerGateway.Cli

open Rpc (Returns RefusedWith requestFor members)
open Text.ControlSequence (escape)

/-! ## What is printed -/

/-- A text as it is printed, without control sequences. -/
def printed (text : String) : String := String.ofList (Colour.remove text.toList)

theorem Colour.behind?_of_ne {c : Char} (h : c ≠ escape) (rest : List Char) :
    Colour.behind? (c :: rest) = none := by
  unfold Colour.behind?
  split
  · next c' others same =>
    obtain ⟨rfl, -⟩ := List.cons.inj same
    rw [if_neg h]
  · rfl

/-- Every control sequence begins with an escape character. -/
theorem Colour.remove_append_of_not_mem {front : List Char} (h : escape ∉ front) (s : List Char) :
    Colour.remove (front ++ s) = front ++ Colour.remove s := by
  induction front with
  | nil => rfl
  | cons c rest ih =>
    rw [List.mem_cons, not_or] at h
    obtain ⟨other, behind⟩ := h
    rw [List.cons_append, Colour.remove]
    split
    · next others found =>
      rw [Colour.behind?_of_ne (Ne.symm other)] at found
      cases found
    · rw [ih behind, List.cons_append]

theorem Colour.remove_of_not_mem {s : List Char} (h : escape ∉ s) : Colour.remove s = s := by
  have own := Colour.remove_append_of_not_mem h []
  rwa [Colour.remove, List.append_nil] at own

theorem printed_of_not_mem {text : String} (h : escape ∉ text.toList) : printed text = text := by
  rw [printed, Colour.remove_of_not_mem h, String.ofList_toList]

/-- The line of a result holds no escape character, whatever the result is. -/
theorem escape_not_mem_resultLine (v : Json) : escape ∉ (Json.write .spaced v ++ "\n").toList := by
  rw [String.toList_append, List.mem_append, not_or]
  refine ⟨fun mem => ?_, by decide⟩
  exact absurd (Json.visible_write_spaced v _ mem) (by decide)

/-! ## Over the wire -/

/-- The reply to a text is the response of the gateway to a request with that text for its body,
within the limit and under a policy that can be used. -/
def Relays (room : Json.Room) (policy : Http.Policy) (client : LedgerClient) (text : String)
    (reply : Except Query.PostFault Query.Reply) : Prop :=
  ∃ r response, Http.Posted policy r ∧ r.body = Text.Utf8.encode text ∧
    (Http.serve room policy Rpc.accountTable client r).value.response = some response ∧
    reply = .ok ⟨response.status, Text.Utf8.encode response.body⟩

variable {room own : Json.Room} {policy : Http.Policy} {client : LedgerClient} {method : String}
  {params : List String}

/-- What the dispatcher answers comes back with the status 200. -/
theorem Relays.reply_eq {text answer : String} {reply : Except Query.PostFault Query.Reply}
    (h : Relays room policy client text reply)
    (answered : (Rpc.handle room Rpc.accountTable client (.bytes (Text.Utf8.encode text))).value =
      .ok (some answer)) : reply = .ok ⟨200, Text.Utf8.encode answer⟩ := by
  obtain ⟨r, response, posted, body, served, rfl⟩ := h
  obtain ⟨complete, same, ends⟩ := Http.serve_posted posted Rpc.accountTable client
  obtain ⟨status, text'⟩ := same (.ofJson 200 answer)
  rw [ends, body, answered] at served
  cases served
  rw [status, text']
  rfl

/-- The parameters on the wire. -/
def wireParams (params : List String) : Json := .array (params.map .string)

/-- The body of the request spells it for the gateway. -/
theorem spells_requestBody (room : Json.Room) (method : String) (params : List String) :
    (Rpc.Body.bytes (Text.Utf8.encode (Query.requestBody method params))).Spells room.depth
      (requestFor method (wireParams params) (.int 1)) := by
  have strings : (wireParams params).Portable 1 := by
    refine .array fun v mem => ?_
    obtain ⟨s, -, rfl⟩ := List.mem_map.1 mem
    exact .string s
  have portable : (requestFor method (wireParams params) (.int 1)).Portable 2 := by
    refine .object (by simp [Association.keys]) ?_
    simp only [List.forall_mem_cons]
    exact ⟨.string _, .string _, strings, .int (by decide), by simp⟩
  exact Rpc.spells_bytes_write Json.compact_regular (portable.mono (Nat.le_of_succ_le room.three_le))

/-- The command reads a reply as the value that it spells. -/
theorem readBody_of_portable (room : Json.Room) {v : Json} (h : v.Portable room.depth) :
    Query.readBody room (Text.Utf8.encode (Json.write .spaced v)) = .ok v := by
  obtain ⟨text, decoded, whole⟩ := Rpc.spells_bytes_write Json.spaced_regular h
  have read : Json.readWithin room.depth text = .ok v := by
    rw [Json.readWithin, Json.readAll_eq_ok_iff.2 whole]
  simp only [Query.readBody, decoded, read]
  rfl

/-- A response with a short ending comes back from its text. -/
theorem portable_members {name : String} {v : Json} (other : name ≠ "jsonrpc" ∧ name ≠ "id")
    (h : v.Portable 1) : (members (.int 1) (name, v)).Portable room.depth := by
  have portable : (members (.int 1) (name, v)).Portable 2 := by
    refine .object (by simp [Association.keys, other.1.symm, other.2.symm]) ?_
    simp only [List.forall_mem_cons]
    exact ⟨.string _, .int (by decide), h, by simp⟩
  exact portable.mono (Nat.le_of_succ_le room.three_le)

theorem portable_result {v : Json} (h : (Rpc.Reply.value v).Textual) :
    (members (.int 1) ("result", v)).Portable room.depth := by
  refine portable_members (by decide) ?_
  cases h with
  | null => exact .null
  | text s => exact .string s

theorem portable_error {e : Rpc.Error}
    (short : (Decimal.digits e.code.natAbs).length ≤ Decimal.digitLimit) :
    (members (.int 1) ("error", e.toJson)).Portable room.depth := by
  refine portable_members (by decide) ?_
  refine .object (by simp [Association.keys]) ?_
  simp only [List.forall_mem_cons]
  exact ⟨.int short, .string _, by simp⟩

theorem conclude_of_read (url : String) {body : Hex.Bytes} {v : Json}
    (read : Query.readBody room body = .ok v) :
    Query.conclude room url (.ok ⟨200, body⟩) = Query.resultOf v := by
  have success : Http.isSuccess 200 = true := by decide
  simp only [Query.conclude, success, if_true, read]

section Replies

variable {reply : Except Query.PostFault Query.Reply} (url : String)
  (relays : Relays room policy client (Query.requestBody method params) reply)

include relays

/-- The command finds the value that the method returns. -/
theorem conclude_of_returns {v : Json} (h : Returns client method (wireParams params) v) :
    Query.conclude own url reply = .ok v := by
  have answered :=
    Rpc.answer_of_returns (spells_requestBody room method params) trivial (by simp) h
  have read := readBody_of_portable own (portable_result h.textual)
  rw [relays.reply_eq answered, conclude_of_read url read]
  rfl

/-- The command finds the error. -/
theorem conclude_of_refusedWith (ordinary : client.Ordinary) {e : Rpc.Error}
    (h : RefusedWith client method (wireParams params) e) :
    Query.conclude own url reply = .error (.refused (.string e.message) (.int e.code)) := by
  have answered := Rpc.answer_of_refusedWith (spells_requestBody room method params) trivial
    (by simp) ordinary h
  have read := readBody_of_portable own (portable_error (h.short ordinary))
  rw [relays.reply_eq answered, conclude_of_read url read]
  rfl

end Replies

/-! ## The run -/

theorem resultLine_of_fits {v : Json} (h : v.Fits Decimal.digitLimit room.depth) :
    Query.resultLine room v = .ok (Json.write .spaced v) := by
  rw [Query.resultLine, Json.checked_of_fits h]
  rfl

/-- The run posts the request and ends with what it makes of the reply. -/
theorem run_query (s : Surroundings) (plain : ∀ a ∈ method :: params, a.toList.head? ≠ some '-') :
    ∃ url, (run s ("query" :: method :: params)).value =
      endQuery ((Query.conclude s.room url
          (s.post usualUrl (Query.requestBody method params))).bind (Query.resultLine s.room))
        [.post usualUrl (Query.requestBody method params)] := by
  have all : ∀ a ∈ "query" :: method :: params, a.toList.head? ≠ some '-' := by
    intro a mem
    rcases List.mem_cons.1 mem with rfl | behind
    · decide
    · exact plain a behind
  have usual : (Url.read usualUrl).isOk = true := by decide +kernel
  cases read : Url.read usualUrl with
  | error fault =>
    rw [read] at usual
    cases usual
  | ok url =>
    refine ⟨url.text, ?_⟩
    rw [run, readArguments_plain _ _ _ all]
    show (runCommand .builtin s .query (method :: params)).value = _
    rw [runCommand, readArguments_plain _ _ _ plain]
    have first : answerFirst? (some Command.query) ⟨[], method :: params⟩ = none := rfl
    have asked : runQuery s ⟨[], method :: params⟩ = ask s usualUrl method params := rfl
    simp only [first, asked, Traced.value_pure]
    rw [ask, read]

/-- The line about an error, as it is told: its message, and its code in brackets. -/
def errorLine (e : Rpc.Error) : String := s!"Error: {e.text}\n"

/-- The code is written in digits, so only the message can hold an escape character. -/
theorem escape_not_mem_errorLine {e : Rpc.Error} (h : escape ∉ e.message.toList) :
    escape ∉ (errorLine e).toList := by
  have code : escape ∉ (toString e.code).toList := by
    intro mem
    rcases Decimal.numeric_intText e.code escape mem with digit | sign
    · exact absurd digit (by decide)
    · exact absurd sign (by decide)
  have line : (errorLine e).toList = "Error: ".toList ++ ((e.message.toList ++ " (".toList ++
      (toString e.code).toList ++ ")".toList) ++ "\n".toList) := by
    simp [errorLine, Rpc.Error.text, toString]
  rw [line]
  simp only [List.mem_append, not_or]
  exact ⟨by decide, ⟨⟨⟨h, by decide⟩, code⟩, by decide⟩, by decide⟩

theorem report_refused (e : Rpc.Error) :
    (Query.Fault.refused (.string e.message) (.int e.code)).report? = some e.text := by
  have code : (Datum.ofJson (.int e.code)).text = toString e.code := by
    simp [Datum.ofJson, Datum.text, Datum.literal, Decimal.intText]
  have message : (Datum.ofJson (.string e.message)).text = e.message := by
    simp [Datum.ofJson, Datum.text]
  rw [Query.Fault.report?, code, message]
  rfl

section Runs

variable {s : Surroundings} (plain : ∀ a ∈ method :: params, a.toList.head? ≠ some '-')
  (relays : Relays room policy client (Query.requestBody method params)
    (s.post usualUrl (Query.requestBody method params)))

include plain relays

theorem run_of_returns {v : Json} (h : Returns client method (wireParams params) v) :
    (run s ("query" :: method :: params)).value =
      ⟨0, Json.write .spaced v ++ "\n", [.post usualUrl (Query.requestBody method params)],
        none⟩ := by
  obtain ⟨url, ends⟩ := run_query s plain
  have line := printed_of_not_mem (escape_not_mem_resultLine v)
  have fits : v.Fits Decimal.digitLimit s.room.depth := by
    cases h.textual with
    | null => exact .null
    | text s => exact .string
  rw [ends, conclude_of_returns url relays h, Except.bind, resultLine_of_fits fits]
  show (⟨0, printed (Json.write .spaced v ++ "\n"), _, none⟩ : Ending) = _
  rw [line]

theorem run_of_refusedWith (ordinary : client.Ordinary) {e : Rpc.Error}
    (h : RefusedWith client method (wireParams params) e) :
    (run s ("query" :: method :: params)).value =
      ⟨1, printed (errorLine e), [.post usualUrl (Query.requestBody method params)], none⟩ := by
  obtain ⟨url, ends⟩ := run_query s plain
  rw [ends, conclude_of_refusedWith url relays ordinary h, Except.bind, endQuery, report_refused]
  rfl

end Runs

/-! ## The command against the methods -/

/-- A run shows how the method of the name ends on the parameters: a value by its JSON in a line of
its own, and else one error in a line that is shown in a certain way. -/
structure ShowsOutcome (shown : String → String) (client : LedgerClient) (method : String)
    (params : List String) (ending : Ending) : Prop where
  asked : ending.calls = [.post usualUrl (Query.requestBody method params)]
  unbroken : ending.crash = none
  result : ∀ v, (Rpc.Reply.value v).Textual →
    (ending.code = 0 ∧ ending.output = Json.write .spaced v ++ "\n" ↔
      Returns client method (wireParams params) v)
  error : (¬ ∃ v, Returns client method (wireParams params) v) →
    ∃ e, RefusedWith client method (wireParams params) e ∧ ending.code = 1 ∧
      ending.output = shown (errorLine e)

theorem eq_of_resultLine {v w : Json} (hv : (Rpc.Reply.value v).Textual)
    (hw : (Rpc.Reply.value w).Textual)
    (h : Json.write .spaced v ++ "\n" = Json.write .spaced w ++ "\n") : v = w := by
  have plain {v : Json} (h : (Rpc.Reply.value v).Textual) : v.Floatless ∧ v.Distinct := by
    cases h with
    | null => exact ⟨.null, .null⟩
    | text s => exact ⟨.string, .string⟩
  have same := String.ofList_injective ((String.append_left_inj _).1 h)
  exact Json.writeChars_inj Json.spaced_regular (plain hv).1 (plain hw).1 (plain hv).2 (plain hw).2
    same

/-- **The command shows what the method comes to.** Whatever the arguments are that begin with no
dash, as long as the gateway stands behind the URL and takes a body of the size, the run ends as the
method does. The line of an error is shown as it is told, but for control sequences in it; where
there is no escape character, there are none. -/
theorem query_shows_outcome {s : Surroundings} (ordinary : client.Ordinary)
    (plain : ∀ a ∈ method :: params, a.toList.head? ≠ some '-')
    (relays : Relays room policy client (Query.requestBody method params)
      (s.post usualUrl (Query.requestBody method params))) :
    ShowsOutcome printed client method params (run s ("query" :: method :: params)).value ∧
      ∀ e : Rpc.Error, escape ∉ e.message.toList → printed (errorLine e) = errorLine e := by
  refine ⟨?_, fun e none => printed_of_not_mem (escape_not_mem_errorLine none)⟩
  rcases Rpc.returns_or_refused ordinary method (wireParams params) with ⟨v, returns⟩ | ⟨e, refused⟩
  · rw [run_of_returns plain relays returns]
    refine ⟨rfl, rfl, fun w textual => ⟨?_, fun returns' => ?_⟩, fun none => ?_⟩
    · rintro ⟨-, output⟩
      rw [← eq_of_resultLine returns.textual textual output]
      exact returns
    · rw [returns.unique returns']
      exact ⟨rfl, rfl⟩
    · exact absurd ⟨v, returns⟩ none
  · rw [run_of_refusedWith plain relays ordinary refused]
    refine ⟨rfl, rfl, fun w textual => ⟨?_, fun returns => ?_⟩, fun _ => ⟨e, refused, rfl, rfl⟩⟩
    · rintro ⟨code, -⟩
      cases code
    · -- One run cannot end in both ways.
      cases (run_of_returns plain relays returns).symm.trans
        (run_of_refusedWith plain relays ordinary refused)

/-! ## The gateway behind the URL -/

/-- The request in which a text is posted. -/
def postOf (text : String) : Http.Request := ⟨"POST", "/", "", [], Text.Utf8.encode text⟩

/-- What a run finds outside if the gateway for a ledger stands behind every URL. -/
def behindGateway (room : Json.Room) (policy : Http.Policy) (client : LedgerClient) :
    Surroundings where
  files := .empty
  env := []
  room := room
  post _ text :=
    match (Http.serve room policy Rpc.accountTable client (postOf text)).value.response with
    | some response => .ok ⟨response.status, Text.Utf8.encode response.body⟩
    | none => .error (.other "RuntimeError")
  limits := .thousand
  log := none

theorem relays_behindGateway (room : Json.Room) (client : LedgerClient) {text : String}
    (posted : Http.Posted policy (postOf text)) (url : String) :
    Relays room policy client text ((behindGateway room policy client).post url text) := by
  have served : ∃ response,
      (Http.serve room policy Rpc.accountTable client (postOf text)).value.response =
        some response := by
    obtain ⟨complete, -, ends⟩ := Http.serve_posted posted Rpc.accountTable client
    rw [ends]
    rcases (Rpc.handle room Rpc.accountTable client (.bytes (postOf text).body)).value with
      fault | _ | answer
    · exact ⟨_, rfl⟩
    · exact ⟨_, rfl⟩
    · exact ⟨_, rfl⟩
  obtain ⟨response, served⟩ := served
  refine ⟨postOf text, response, posted, rfl, served, ?_⟩
  simp only [behindGateway, served]

/-- A text of less than five mebibytes is taken. -/
theorem posted_standard {text : String} (small : (Text.Utf8.encode text).length ≤ 1000) :
    Http.Posted .standard (postOf text) where
  method := rfl
  path := rfl
  size := by
    show some (decide (5 * 1024 * 1024 < ((Text.Utf8.encode text).length : Int))) = some false
    rw [decide_eq_false (by omega)]
  origins := fun _ => ⟨_, rfl⟩

/-- A question for the balance of an account without one. -/
def balanceArguments : List String := ["0xabababababababababababababababababababab", "latest"]

theorem query_shows_outcome_balance :
    Ledger.fresh.client.Ordinary ∧
    (∀ a ∈ "eth_getBalance" :: balanceArguments, a.toList.head? ≠ some '-') ∧
      Relays .thousand .standard Ledger.fresh.client
        (Query.requestBody "eth_getBalance" balanceArguments)
        ((behindGateway .thousand .standard Ledger.fresh.client).post usualUrl
          (Query.requestBody "eth_getBalance" balanceArguments)) ∧
      ShowsOutcome printed Ledger.fresh.client "eth_getBalance" balanceArguments
        (run (behindGateway .thousand .standard Ledger.fresh.client)
          ("query" :: "eth_getBalance" :: balanceArguments)).value := by
  have plain : ∀ a ∈ "eth_getBalance" :: balanceArguments, a.toList.head? ≠ some '-' := by decide
  have small : (Text.Utf8.encode
      (Query.requestBody "eth_getBalance" balanceArguments)).length ≤ 1000 := by cbv
  have relays := relays_behindGateway .thousand Ledger.fresh.client (posted_standard small) usualUrl
  exact ⟨Ledger.fresh.ordinary_client, plain, relays,
    (query_shows_outcome Ledger.fresh.ordinary_client plain relays).1⟩

/-- The name of a method that sets a colour is printed without it, so the line is not as told. -/
theorem not_shows_outcome_colour :
    (∀ a ∈ ["\x1b[31mx"], a.toList.head? ≠ some '-') ∧
      Relays .thousand .standard Ledger.fresh.client (Query.requestBody "\x1b[31mx" [])
        ((behindGateway .thousand .standard Ledger.fresh.client).post usualUrl
          (Query.requestBody "\x1b[31mx" [])) ∧
      ¬ ShowsOutcome id Ledger.fresh.client "\x1b[31mx" []
        (run (behindGateway .thousand .standard Ledger.fresh.client)
          ["query", "\x1b[31mx"]).value := by
  have plain : ∀ a ∈ ["\x1b[31mx"], a.toList.head? ≠ some '-' := by decide
  have small : (Text.Utf8.encode (Query.requestBody "\x1b[31mx" [])).length ≤ 1000 := by cbv
  have relays := relays_behindGateway .thousand Ledger.fresh.client (posted_standard small) usualUrl
  refine ⟨plain, relays, fun shows => ?_⟩
  have unknown : Rpc.accountTable.find? "\x1b[31mx" = none := rfl
  have refused : RefusedWith Ledger.fresh.client "\x1b[31mx" (wireParams [])
      (.methodNotFound "\x1b[31mx") := .unknown (by decide) unknown
  have none : ¬ ∃ v, Returns Ledger.fresh.client "\x1b[31mx" (wireParams []) v := by
    rintro ⟨v, m, found, -⟩
    cases found
  obtain ⟨e, told, -, output⟩ := shows.error none
  have line : printed (errorLine (.methodNotFound "\x1b[31mx")) =
      "Error: Method not found: x (-32601)\n" := by cbv
  rw [run_of_refusedWith plain relays Ledger.fresh.ordinary_client refused] at output
  cases told with
  | unknown =>
    replace output := output.symm.trans line
    exact absurd output (by decide)
  | missing named => exact absurd named (by decide)
  | refused found => cases found
  | crashed found => cases found

end LedgerGateway.Cli
