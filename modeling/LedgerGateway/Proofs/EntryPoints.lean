import LedgerGateway.Proofs.Answering
import LedgerGateway.Proofs.JsonRoundTrip

/-!
# A value, its text and its bytes

A request may be handed over as a value, as text, or as bytes. A value that has room below the
limits is spelt by what it is written as, in either form, and by then the forms have met: the
answer, the queries and the log are those of the value. The encoding of the bytes is told from the
bytes alone, and the text of a value is never taken for UTF-16 or UTF-32.

* `Portable` — a value that comes back from its text, and how such values are put together.
* `spells_text_write`, `spells_bytes_write` — what is written spells the value.
* `forms_agree` — the three forms of a value against each other.
-/

namespace LedgerGateway.Json

open Decimal (digitLimit)

/-! ## Values that come back -/

/-- A value that comes back from its text: its numbers can be written, each name occurs once in its
object, no integer has more digits than the limit, and values nest no deeper than the depth. -/
structure Portable (depth : Nat) (v : Json) : Prop where
  numbers : v.Writable
  names : v.Distinct
  fits : v.Fits digitLimit depth

namespace Portable

variable {depth : Nat}

theorem mono {v : Json} (h : v.Portable depth) {depth' : Nat} (room : depth ≤ depth') :
    v.Portable depth' :=
  ⟨h.numbers, h.names, h.fits.mono (le_refl _) room⟩

theorem null : Json.null.Portable depth := ⟨.null, .null, .null⟩

theorem string (s : String) : (Json.string s).Portable depth := ⟨.string, .string, .string⟩

theorem int {n : Int} (short : (Decimal.digits n.natAbs).length ≤ digitLimit) :
    (Json.int n).Portable depth := ⟨.int, .int, .int short⟩

theorem array {vs : List Json} (h : ∀ v ∈ vs, v.Portable depth) :
    (Json.array vs).Portable (depth + 1) where
  numbers := .array fun v mem => (h v mem).numbers
  names := .array fun v mem => (h v mem).names
  fits := .array fun v mem => (h v mem).fits

theorem object {ms : List (String × Json)} (nodup : (Association.keys ms).Nodup)
    (h : ∀ m ∈ ms, m.2.Portable depth) : (Json.object ms).Portable (depth + 1) where
  numbers := .object trivial fun m mem => (h m mem).numbers
  names := .object nodup fun m mem => (h m mem).names
  fits := .object fun m mem => (h m mem).fits

end Portable

end LedgerGateway.Json

namespace LedgerGateway.Rpc

open Json (Style)

/-! ## What is written -/

section Written

variable {style : Style} (regular : style.Regular) {v : Json} {depth : Nat} (h : v.Portable depth)

include regular h

/-- The text of a value spells it. -/
theorem spells_text_write : (Body.text (Json.write style v)).Spells depth v := by
  show Json.WholeText Json.words Decimal.digitLimit depth v (Json.write style v).toList
  have whole := Json.wholeText_write regular Json.strictWords_known h.numbers h.fits
  rw [h.names.settle_eq] at whole
  rw [Json.write, String.toList_ofList]
  exact whole

/-- So do the bytes of the text. -/
theorem spells_bytes_write :
    (Body.bytes (Text.Utf8.encode (Json.write style v))).Spells depth v := by
  have whole := Json.wholeText_write regular Json.strictWords_known h.numbers h.fits
  have strict := Json.wholeText_write regular (fun _ => id) h.numbers h.fits
  rw [h.names.settle_eq] at whole
  exact ⟨_, decodeDetected_of_strictText ⟨_, _, _, strict⟩, whole⟩

end Written

/-! ## The three forms -/

/-- Whether a request is handed over as a value, as its text or as the bytes of the text, the same
comes of it: the answer and all that is left behind. -/
structure FormsAgree (room : Json.Room) (methods : MethodTable) (client : LedgerClient) (v : Json) :
    Prop where
  text : handle room methods client (.text (Json.write .spaced v)) =
    handle room methods client (.value v)
  bytes : handle room methods client (.bytes (Text.Utf8.encode (Json.write .spaced v))) =
    handle room methods client (.value v)

/-- The forms agree for every value that comes back from its text, wherever there is room for it.
Nothing is asked of the methods or of the ledger. -/
theorem forms_agree (room : Json.Room) (methods : MethodTable) (client : LedgerClient) {v : Json}
    {nesting : Nat} (portable : v.Portable nesting) (within : nesting ≤ room.depth) :
    FormsAgree room methods client v := by
  have portable' : v.Portable room.depth := portable.mono within
  have value : (Body.value v).Spells room.depth v := rfl
  constructor
  · have spelt := spells_text_write Json.spaced_regular portable'
    rw [handle_of_spells spelt, handle_of_spells value]
  · have spelt := spells_bytes_write Json.spaced_regular portable'
    rw [handle_of_spells spelt, handle_of_spells value]

/-- A request with an accent, a control character and an integer of many digits. -/
def accentedRequest : Json :=
  .object [("id", .int (10 ^ 30)), ("method", .string "é\x01"), ("params", .array [.null])]

theorem forms_agree_accented :
    accentedRequest.Portable 2 ∧ 2 ≤ Json.Room.thousand.depth ∧
      FormsAgree .thousand accountTable Ledger.fresh.client accentedRequest := by
  have portable : accentedRequest.Portable 2 := by
    refine .object (by decide) ?_
    simp only [List.forall_mem_cons]
    exact ⟨.int (by decide), .string _, .array (by simpa using .null), by simp⟩
  exact ⟨portable, by decide,
    forms_agree .thousand accountTable Ledger.fresh.client portable (by decide)⟩

end LedgerGateway.Rpc
