import LedgerGateway.Proofs.JsonTexts
import LedgerGateway.Proofs.Utf8Spelling
import LedgerGateway.Rpc.Dispatcher

/-!
# Reading the bodies of requests

A body is text or bytes; bytes are decoded first, in the encoding that they tell. What the body
spells is what its text does, and it passes a limit where its text does. JSON in UTF-8 is a text of
the strict grammar in its only spelling as bytes.

* `Body.read_eq_ok_iff` — a body is read as a value exactly if it spells it within the limits.
* `Body.read_beyondLimit_iff` — reading is given up exactly if the body passes a limit.
* `isUtf8Json_iff` — when bytes that were decoded are JSON in UTF-8.
* `IsUtf8Json.read` — JSON in UTF-8 is read unless it passes a limit.
-/

namespace LedgerGateway.Rpc

open Hex (Bytes)
open Json (WholeText StrictText)
open Decimal (digitLimit)

/-! ## What a body spells -/

/-- The body spells a value, with values inside it down to a depth. -/
def Body.Spells (depth : Nat) (v : Json) : Body → Prop
  | .text s => WholeText Json.words digitLimit depth v s.toList
  | .bytes b => ∃ text, Text.decodeDetected b = .ok text ∧
      WholeText Json.words digitLimit depth v text
  | .value w => w = v

/-- The body passes a limit before anything else goes wrong. -/
def Body.Overruns (depth : Nat) : Body → Prop
  | .text s => Json.Overruns depth s.toList
  | .bytes b => ∃ text, Text.decodeDetected b = .ok text ∧ Json.Overruns depth text
  | .value _ => False

/-- The bytes are the UTF-8 of a text of the strict grammar. -/
def IsUtf8Json (b : Bytes) : Prop :=
  ∃ text, StrictText text ∧ b = Text.Utf8.encode (String.ofList text)

/-! ## Texts -/

variable {depth : Nat} {text : List Char}

/-- The value of a text, or the fault that the body has for it. -/
def readText (depth : Nat) (text : List Char) : Except BodyFault Json :=
  (Json.readWithin depth text).mapError .ofRead

theorem readText_eq (depth : Nat) (text : List Char) :
    readText depth text =
      match Json.readAll depth text with
      | .error stop => .error (.ofRead (stop.fault text))
      | .ok v => .ok v := by
  unfold readText Json.readWithin
  cases Json.readAll depth text <;> rfl

theorem readText_eq_ok_iff {v : Json} :
    readText depth text = .ok v ↔ WholeText Json.words digitLimit depth v text := by
  rw [← Json.readAll_eq_ok_iff, readText_eq]
  cases Json.readAll depth text <;> simp

theorem beyondLimit_fault_iff {stop : Json.Stop} :
    (∃ fault, BodyFault.ofRead (stop.fault text) = .beyondLimit fault) ↔ stop.IsLimit := by
  cases stop <;> simp [BodyFault.ofRead, Json.Stop.fault, Json.Stop.IsLimit]

theorem readText_beyondLimit_iff :
    (∃ fault, readText depth text = .error (.beyondLimit fault)) ↔ Json.Overruns depth text := by
  rw [← Json.readAll_limit_iff, readText_eq]
  cases Json.readAll depth text with
  | ok v => simp
  | error stop => simpa using beyondLimit_fault_iff

/-! ## Bodies -/

/-- A byte order mark in front of a text keeps it from being read, and it is no JSON either way. -/
theorem read_text_eq (depth : Nat) (s : String) :
    Body.read depth (.text s) = readText depth s.toList ∨
      (∃ reason, Body.read depth (.text s) = .error (.unreadable reason)) ∧
        ∀ c t, s.toList = c :: t → ¬ c.toNat < 0x80 := by
  by_cases mark : s.toList.head? = some '\uFEFF'
  · refine .inr ⟨⟨_, by rw [Body.read, Json.readUnmarked, if_pos mark]; rfl⟩, ?_⟩
    rintro c t eq
    rw [eq, List.head?_cons, Option.some.injEq] at mark
    rw [mark]
    decide
  · exact .inl (by rw [Body.read, Json.readUnmarked, if_neg mark]; rfl)

theorem read_bytes_eq (depth : Nat) (b : Bytes) :
    Body.read depth (.bytes b) =
      match Text.decodeDetected b with
      | .error fault => .error (.unreadable fault.message)
      | .ok text => readText depth text := by
  rw [Body.read]
  cases Text.decodeDetected b <;> rfl

/-- A body is read as a value exactly if it spells it within the limits. -/
theorem Body.read_eq_ok_iff {v : Json} (body : Body) :
    body.read depth = .ok v ↔ body.Spells depth v := by
  cases body with
  | text s =>
    show _ ↔ WholeText Json.words digitLimit depth v s.toList
    obtain same | ⟨⟨reason, unread⟩, marked⟩ := read_text_eq depth s
    · rw [same, readText_eq_ok_iff]
    · rw [unread]
      refine ⟨fun h => absurd h (by simp), fun h => ?_⟩
      obtain ⟨c, t, eq, ascii⟩ := h.ascii_head fun _ => id
      exact absurd ascii (marked c t eq)
  | bytes b =>
    show _ ↔ ∃ text, Text.decodeDetected b = .ok text ∧ _
    rw [read_bytes_eq]
    cases Text.decodeDetected b with
    | error fault => simp
    | ok text => simpa using readText_eq_ok_iff
  | value w => simp [Body.read, Body.Spells]

/-- Reading is given up exactly if the body passes a limit. -/
theorem Body.read_beyondLimit_iff (body : Body) :
    (∃ fault, body.read depth = .error (.beyondLimit fault)) ↔ body.Overruns depth := by
  cases body with
  | text s =>
    show _ ↔ Json.Overruns depth s.toList
    obtain same | ⟨⟨reason, unread⟩, marked⟩ := read_text_eq depth s
    · rw [same, readText_beyondLimit_iff]
    · rw [unread]
      refine ⟨fun ⟨_, h⟩ => absurd h (by simp), fun h => ?_⟩
      obtain ⟨c, t, eq, ascii⟩ := h.ascii_head
      exact absurd ascii (marked c t eq)
  | bytes b =>
    show _ ↔ ∃ text, Text.decodeDetected b = .ok text ∧ _
    rw [read_bytes_eq]
    cases Text.decodeDetected b with
    | error fault => simp
    | ok text => simpa using readText_beyondLimit_iff
  | value w => simp [Body.read, Body.Overruns]

/-- A body that spells a value within the limits passes none. -/
theorem Body.Spells.not_overruns {v : Json} {body : Body} (h : body.Spells depth v) :
    ¬ body.Overruns depth := by
  intro overrun
  obtain ⟨fault, failed⟩ := body.read_beyondLimit_iff.2 overrun
  exact absurd ((body.read_eq_ok_iff.2 h).symm.trans failed) (by simp)

/-! ## JSON in UTF-8 -/

/-- A text of the strict grammar is decoded from its UTF-8, whatever other encodings are tried. -/
theorem decodeDetected_of_strictText (strict : StrictText text) :
    Text.decodeDetected (Text.Utf8.encode (String.ofList text)) = .ok text := by
  obtain ⟨digits, room, v, whole⟩ := strict
  have noNul := whole.no_nul Json.strictWords_known
  obtain ⟨c, t, rfl, ascii⟩ := whole.ascii_head Json.strictWords_known
  exact Text.decodeDetected_encode ascii fun x mem eq => noNul (eq ▸ mem)

/-- Bytes that were decoded are JSON in UTF-8 exactly if their text is of the strict grammar and
they are its UTF-8. -/
theorem isUtf8Json_iff {b : Bytes} (decoded : Text.decodeDetected b = .ok text) :
    IsUtf8Json b ↔ StrictText text ∧ b = Text.Utf8.encode (String.ofList text) := by
  constructor
  · rintro ⟨text', strict, rfl⟩
    obtain rfl := Except.ok.inj (decoded.symm.trans (decodeDetected_of_strictText strict))
    exact ⟨strict, rfl⟩
  · exact fun h => ⟨text, h⟩

/-- JSON in UTF-8 is read unless it passes a limit. -/
theorem IsUtf8Json.read {b : Bytes} (h : IsUtf8Json b) (depth : Nat) :
    (∃ v, (Body.bytes b).Spells depth v) ∨ (Body.bytes b).Overruns depth := by
  obtain ⟨text, strict, rfl⟩ := h
  have decoded := decodeDetected_of_strictText strict
  obtain ⟨digits, room, v, whole⟩ := strict
  obtain read | overrun := Json.readAll_of_wholeText Json.strictWords_known whole depth
  · exact .inl ⟨v, _, decoded, Json.readAll_eq_ok_iff.1 read⟩
  · exact .inr ⟨_, decoded, overrun⟩

end LedgerGateway.Rpc
