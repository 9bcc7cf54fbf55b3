import LedgerGateway.Proofs.BlockSelection
import LedgerGateway.Proofs.LastWrite

/-!
# Storage positions between two readers

The gateway checks a position by its length, takes two characters off and leaves the digits to the
ledger. The ledger's reader takes off a mark of its own and passes over blanks, so between the two
some texts get through that are no digits.

* `slotAnswer` — how a request for a slot is answered, for every text in the place of the position
  (`handle_storageAt`).
* `Guarded` — a position of digits reads the slot of their number, and any other reads no slot.
* `Lenient` — what gets through, which is by a second mark or by blanks between the pairs
  (`Lenient.second_mark_or_blank`).
* `guarded_iff` — positions are guarded except for the lenient ones.
-/

namespace LedgerGateway.Rpc

open Hex (EvenDigits Spells)
open Ledger (Call)

/-! ## Requests for a slot -/

/-- The answer under an id to a request for a slot of an account, with any text in the place of the
position. -/
def slotAnswer (l : Ledger) (a : Address) (key : BlockKey) (id : Json) (position : String) :
    Except ServeFault (Option String) :=
  if 4 ≤ position.length ∧ position.length % 2 = 0 then
    match l.resolve key, readPosition (withoutMark position) with
    | .ok state, .ok n => resultAnswer id (slotIn a n state)
    | _, _ => errorAnswer id .internal
  else errorAnswer id (.invalidParams s!"Invalid storage position: {position}")

/-- This is how the gateway answers. -/
theorem handle_storageAt {l : Ledger} {address position selector : String} {a : Address}
    {key : BlockKey} (denotes : Denotes address a)
    (parsed : BlockKey.parseText selector = .ok key) {room : Json.Room} {body : Body} {v : Json}
    (spelt : body.Spells room.depth v) (bounded : body.Bounded room.depth)
    (asks : Asks v "eth_getStorageAt")
    (params : carriedParams v = .array [.string address, .string position, .string selector])
    (owed : carriedId v ≠ .null) :
    (handle room accountTable l.client body).value =
      slotAnswer l a key (carriedId v) position := by
  have found : accountTable.find? "eth_getStorageAt" = some getStorageAt := rfl
  have ended := @getStorageAt_of_key l _ _ _ _ denotes parsed position
  rw [← params] at ended
  rw [slotAnswer]
  by_cases long : 4 ≤ position.length ∧ position.length % 2 = 0
  · rw [if_pos long] at ended ⊢
    cases resolved : l.resolve key with
    | error fault =>
      rw [resolved] at ended
      exact answer_of_refusal spelt bounded asks found owed ended (by decide)
    | ok state =>
      cases spells : readPosition (withoutMark position) with
      | error fault =>
        rw [resolved, spells] at ended
        exact answer_of_refusal spelt bounded asks found owed ended (by decide)
      | ok n =>
        rw [resolved, spells] at ended
        have told : endingOf (fun v => .ok (dataReply v)) (.ok (state.slot? a n)) =
            .ok (.value (slotIn a n state)) := by
          cases slot : state.slot? a n <;> simp [endingOf, slotIn, slot, dataReply]
        exact answer_of_reply spelt bounded asks found owed (ended.trans told)
  · rw [if_neg long] at ended ⊢
    have short : Decimal.digitCount 32602 ≤ Decimal.digitLimit := by decide
    exact answer_of_refusal spelt bounded asks found owed ended short

section Answers

variable {l : Ledger} {key : BlockKey} {position : String} (a : Address) (id : Json)

theorem slotAnswer_of_short (short : ¬ (4 ≤ position.length ∧ position.length % 2 = 0)) :
    slotAnswer l a key id position =
      errorAnswer id (.invalidParams s!"Invalid storage position: {position}") := if_neg short

variable (long : 4 ≤ position.length ∧ position.length % 2 = 0)

include long

theorem slotAnswer_of_spells {state : Snapshot} {bytes : Hex.Bytes}
    (resolved : l.resolve key = .ok state) (spells : Spells (withoutMark position) bytes) :
    slotAnswer l a key id position = resultAnswer id (slotIn a (bigEndian bytes) state) := by
  have slot := (readPosition_eq_ok_iff _ _).2 ⟨bytes, spells, rfl⟩
  rw [slotAnswer, if_pos long, resolved, slot]

/-- The ledger refuses what spells no bytes, and everything if it has no state for the key. -/
theorem slotAnswer_of_not_spells
    (h : ¬ ((∃ bytes, Spells (withoutMark position) bytes) ∧ ∃ state, l.resolve key = .ok state)) :
    slotAnswer l a key id position = errorAnswer id .internal := by
  rw [slotAnswer, if_pos long]
  cases resolved : l.resolve key with
  | error fault => rfl
  | ok state =>
    cases slot : readPosition (withoutMark position) with
    | error fault => rfl
    | ok n =>
      obtain ⟨bytes, spells, -⟩ := (readPosition_eq_ok_iff _ _).1 slot
      exact absurd ⟨⟨bytes, spells⟩, state, resolved⟩ h

end Answers

/-! ## Guarded positions -/

/-- The answer under an id to a request for a slot of an account: a position that is no even number
of digits behind two characters is refused and reads no slot, by the gateway for its length and else
by the ledger; one of digits reads the slot of the number that they spell. -/
structure Guarded (l : Ledger) (a : Address) (key : BlockKey) (id : Json) (position : String)
    (answer : Except ServeFault (Option String)) : Prop where
  length : ¬ EvenDigits (position.toList.drop 2) →
    position.length < 4 ∨ position.length % 2 = 1 →
    ∃ message, answer = errorAnswer id ⟨-32602, message⟩
  digits : ¬ EvenDigits (position.toList.drop 2) →
    4 ≤ position.length → position.length % 2 = 0 →
    ∃ message, answer = errorAnswer id ⟨-32603, message⟩
  noSlot : ¬ EvenDigits (position.toList.drop 2) → ∀ result, answer ≠ resultAnswer id result
  slot : EvenDigits (position.toList.drop 2) → ∀ state, l.resolve key = .ok state →
    ∃ n, Hex.value? (position.toList.drop 2) = some n ∧ answer = resultAnswer id (slotIn a n state)

/-- Behind two characters the position has no even number of digits, yet it is long enough and even,
and the rest spells bytes: behind a second mark, or with blanks between the pairs. -/
structure Lenient (position : String) : Prop where
  long : 4 ≤ position.length
  even : position.length % 2 = 0
  noDigits : ¬ EvenDigits (position.toList.drop 2)
  spells : ∃ bytes, Spells (withoutMark position) bytes

/-- There is no other way through than a second mark or a blank. -/
theorem Lenient.second_mark_or_blank {position : String} (h : Lenient position) :
    (∃ mark ∈ [['0', 'x'], ['0', 'X']], mark <+: position.toList.drop 2) ∨
      ∃ c ∈ position.toList.drop 2, Text.isAsciiBlank c = true := by
  obtain ⟨bytes, mark, listed, s, text, pairs⟩ := h.spells
  rw [withoutMark, String.toList_ofList] at text
  have length := congrArg List.length text
  rw [List.length_drop, String.length_toList] at length
  simp only [Hex.marks, List.mem_cons, List.not_mem_nil, or_false] at listed
  rcases listed with rfl | rfl | rfl
  · rw [List.nil_append] at text length
    rw [text]
    refine .inr (pairs.digits_or_blank.resolve_left fun digits => h.noDigits ?_)
    rw [text]
    refine ⟨fun none => ?_, digits.1, digits.2⟩
    have long := h.long
    rw [none, List.length_nil] at length
    omega
  · exact .inl ⟨_, by simp, s, text.symm⟩
  · exact .inl ⟨_, by simp, s, text.symm⟩

/-- **Which positions are guarded.** For each ledger in memory, address and block key, a request for
a slot treats the position as it should, except that a lenient position reads a slot if there is a
state for the key. -/
theorem guarded_iff (l : Ledger) {address : String} (wellFormed : IsAddress address)
    (position : String) {selector : String} {key : BlockKey}
    (parsed : BlockKey.parseText selector = .ok key) {room : Json.Room} {body : Body} {v : Json}
    (spelt : body.Spells room.depth v) (bounded : body.Bounded room.depth)
    (asks : Asks v "eth_getStorageAt")
    (params : carriedParams v = .array [.string address, .string position, .string selector])
    (owed : carriedId v ≠ .null) :
    ∃ a, Denotes address a ∧
      (Guarded l a key (carriedId v) position
          (handle room accountTable l.client body).value ↔
        ¬ (Lenient position ∧ ∃ state, l.resolve key = .ok state)) := by
  obtain ⟨a, denotes⟩ := wellFormed.denotes
  refine ⟨a, denotes, ?_⟩
  rw [handle_storageAt denotes parsed spelt bounded asks params owed]
  generalize carriedId v = id
  constructor
  · rintro guarded ⟨lenient, state, resolved⟩
    obtain ⟨bytes, spells⟩ := lenient.spells
    exact guarded.noSlot lenient.noDigits _
      (slotAnswer_of_spells a id ⟨lenient.long, lenient.even⟩ resolved spells)
  · intro strict
    have refused : ¬ EvenDigits (position.toList.drop 2) →
        4 ≤ position.length ∧ position.length % 2 = 0 →
        slotAnswer l a key id position = errorAnswer id .internal := by
      intro noDigits long
      apply slotAnswer_of_not_spells a id long
      rintro ⟨spells, known⟩
      exact strict ⟨⟨long.1, long.2, noDigits, spells⟩, known⟩
    constructor
    case length =>
      intro noDigits short
      exact ⟨_, slotAnswer_of_short a id (by omega)⟩
    case digits =>
      intro noDigits long even
      exact ⟨_, refused noDigits ⟨long, even⟩⟩
    case noSlot =>
      intro noDigits result
      by_cases long : 4 ≤ position.length ∧ position.length % 2 = 0
      · rw [refused noDigits long]
        exact (resultAnswer_ne_errorAnswer _ _ _).symm
      · rw [slotAnswer_of_short a id long]
        exact (resultAnswer_ne_errorAnswer _ _ _).symm
    case slot =>
      intro digits state resolved
      obtain ⟨bytes, spells, value⟩ := spells_of_digits digits
      exact ⟨_, value, slotAnswer_of_spells a id (long_of_digits digits) resolved spells⟩

/-- An account with two slots, sealed in block 1. -/
def twoSlots : List Call :=
  [.setStorage "abababababababababababababababababababab" "00" [1],
   .setStorage "abababababababababababababababababababab" "07" [2], .commit]

/-- A request for a slot of that account in the newest block. -/
def newestSlotRequest (position : String) : Json :=
  .object [("id", .int 1), ("method", .string "eth_getStorageAt"),
    ("params", .array [.string "0xabababababababababababababababababababab", .string position,
      .string "latest"])]

theorem asks_newestSlotRequest (position : String) :
    Asks (newestSlotRequest position) "eth_getStorageAt" := ⟨.inl rfl, rfl, by decide⟩

theorem owed_newestSlotRequest (position : String) :
    carriedId (newestSlotRequest position) ≠ .null := by
  show Json.int 1 ≠ .null
  simp

theorem bounded_newestSlotRequest (position : String) :
    (Body.value (newestSlotRequest position)).Bounded Json.Room.thousand.depth :=
  Json.fault?_eq_none_iff.1 rfl

/-- A letter that is no digit is refused by the ledger. -/
theorem guarded_letter :
    IsAddress "0xabababababababababababababababababababab" ∧
      Asks (newestSlotRequest "0x0g") "eth_getStorageAt" ∧
      ∃ a, Denotes "0xabababababababababababababababababababab" a ∧
        Guarded (Ledger.fresh.run twoSlots) a .latest (.int 1) "0x0g"
          (handle .thousand accountTable (Ledger.fresh.run twoSlots).client
            (.value (newestSlotRequest "0x0g"))).value := by
  have wellFormed : IsAddress "0xabababababababababababababababababababab" :=
    ⟨rfl, List.all_eq_true.1 rfl⟩
  have spelt : (Body.value (newestSlotRequest "0x0g")).Spells Json.Room.thousand.depth
      (newestSlotRequest "0x0g") := rfl
  have asks := asks_newestSlotRequest "0x0g"
  obtain ⟨a, denotes, iff⟩ := guarded_iff (Ledger.fresh.run twoSlots) wellFormed "0x0g"
    BlockKey.parseText_latest spelt (bounded_newestSlotRequest "0x0g")
    asks rfl (owed_newestSlotRequest "0x0g")
  have strict : ¬ Lenient "0x0g" := by
    rintro ⟨-, -, -, bytes, spells⟩
    exact (Hex.read_eq_error_iff "0g").1 ⟨_, rfl⟩ bytes spells
  exact ⟨wellFormed, asks, a, denotes, iff.2 fun h => strict h.1⟩

theorem denotes_repeatedAddress :
    Denotes "0xabababababababababababababababababababab" Ledger.repeatedAddress :=
  ⟨rfl, Hex.pairs_of_readPairs _ 0 _ rfl⟩

/-- Two blanks read slot 0, and the digits behind a second mark read their slot. -/
theorem not_guarded_blanks_or_second_mark :
    ¬ Guarded (Ledger.fresh.run twoSlots) Ledger.repeatedAddress .latest (.int 1) "0x  "
        (handle .thousand accountTable (Ledger.fresh.run twoSlots).client
          (.value (newestSlotRequest "0x  "))).value ∧
      ¬ Guarded (Ledger.fresh.run twoSlots) Ledger.repeatedAddress .latest (.int 1) "0x0x07"
        (handle .thousand accountTable (Ledger.fresh.run twoSlots).client
          (.value (newestSlotRequest "0x0x07"))).value := by
  have spelt (position : String) :
      (Body.value (newestSlotRequest position)).Spells Json.Room.thousand.depth
        (newestSlotRequest position) := rfl
  constructor
  · intro guarded
    have noDigits : ¬ EvenDigits ("0x  ".toList.drop 2) := fun h =>
      absurd (h.digits ' ' (by decide)) (by decide)
    apply guarded.noSlot noDigits (.string "0x01")
    exact (handle_storageAt denotes_repeatedAddress BlockKey.parseText_latest (spelt "0x  ")
      (bounded_newestSlotRequest "0x  ") (asks_newestSlotRequest "0x  ") rfl
      (owed_newestSlotRequest "0x  ")).trans rfl
  · intro guarded
    have noDigits : ¬ EvenDigits ("0x0x07".toList.drop 2) := fun h =>
      absurd (h.digits 'x' (by decide)) (by decide)
    apply guarded.noSlot noDigits (.string "0x02")
    exact (handle_storageAt denotes_repeatedAddress BlockKey.parseText_latest (spelt "0x0x07")
      (bounded_newestSlotRequest "0x0x07") (asks_newestSlotRequest "0x0x07") rfl
      (owed_newestSlotRequest "0x0x07")).trans rfl

end LedgerGateway.Rpc
