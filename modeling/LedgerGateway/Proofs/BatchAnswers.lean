import LedgerGateway.Proofs.SingleRequests
import Mathlib.Data.List.Forall2
import Mathlib.Data.List.ReduceOption

/-!
# The answer to a batch

The text of a batch is made at once, out of all its responses. It is still the texts of the single
answers between brackets, with ", " between them, in the order of the requests and without those
that have none; and one request that fails or one answer that cannot be written spoils the whole
text.

* `write_array` — the text of an array is that of its items.
* `handleEach_eq_ok_iff` — a batch has its responses if no request of it fails.
* `handleValue_batch` — the answer to a batch, given what is said in answer to its requests.
* `handleValue_batch_eq_ok_iff` — when a batch is answered at all.
-/

namespace LedgerGateway.Rpc

open Json (Style)

/-! ## The text of an array -/

theorem writeItems_eq (style : Style) (v : Json) (rest : List Json) :
    Json.writeChars style v ++ Json.writeItems style rest =
      style.comma.intercalate ((v :: rest).map (Json.writeChars style)) := by
  induction rest generalizing v with
  | nil => simp [Json.writeItems]
  | cons w rest ih =>
    rw [List.map_cons, List.map_cons, List.intercalate_cons_cons, ← List.map_cons, ← ih w,
      Json.writeItems, List.append_assoc, List.append_assoc]

theorem write_array (vs : List Json) :
    Json.write .spaced (.array vs) =
      "[" ++ ", ".intercalate (vs.map (Json.write .spaced)) ++ "]" := by
  apply String.toList_injective
  have hw : (vs.map (Json.write .spaced)).map String.toList =
      vs.map (Json.writeChars .spaced) := by
    simp [Json.write, Function.comp_def]
  rw [String.toList_append, String.toList_append, String.toList_intercalate, hw, Json.write,
    String.toList_ofList]
  cases vs with
  | nil => rfl
  | cons v rest =>
    show '[' :: Json.writeChars .spaced v ++ Json.writeItems .spaced rest ++ [']'] = _
    rw [List.cons_append, writeItems_eq]
    rfl

/-! ## The responses of a batch -/

variable {methods : MethodTable} {client : LedgerClient}

theorem exists_forall₂ {α β : Type} {R : α → β → Prop} {l : List α} (h : ∀ a ∈ l, ∃ b, R a b) :
    ∃ bs, List.Forall₂ R l bs := by
  induction l with
  | nil => exact ⟨[], .nil⟩
  | cons a rest ih =>
    obtain ⟨b, first⟩ := h a (by simp)
    obtain ⟨bs, others⟩ := ih fun a' mem => h a' (List.mem_cons_of_mem a mem)
    exact ⟨b :: bs, .cons first others⟩

theorem exists_of_mem_right {α β : Type} {R : α → β → Prop} {l : List α} {bs : List β}
    (h : List.Forall₂ R l bs) {b : β} (mem : b ∈ bs) : ∃ a ∈ l, R a b := by
  induction h with
  | nil => cases mem
  | cons own _ ih =>
    rcases List.mem_cons.1 mem with rfl | behind
    · exact ⟨_, by simp, own⟩
    · obtain ⟨a, there, related⟩ := ih behind
      exact ⟨a, by simp [there], related⟩

theorem exists_of_mem_left {α β : Type} {R : α → β → Prop} {l : List α} {bs : List β}
    (h : List.Forall₂ R l bs) {a : α} (mem : a ∈ l) : ∃ b ∈ bs, R a b := by
  obtain ⟨b, there, related⟩ := exists_of_mem_right h.flip mem
  exact ⟨b, there, related⟩

theorem gather_eq_ok_iff {first : Except ServeFault (Option Response)}
    {others : Except ServeFault (List Response)} {rs : List Response} :
    gather first others = .ok rs ↔
      ∃ response responses, first = .ok response ∧ others = .ok responses ∧
        rs = response.toList ++ responses := by
  rcases first with fault | response <;> rcases others with fault' | responses <;>
    simp [gather, bind, Except.bind, pure, Except.pure, eq_comm]

/-- The requests behind one that does not fail are handled as they are alone. -/
theorem handleEach_cons_of_ok {e : Json} {response : Option Response} (rest : List Json)
    (h : (handleSingle methods client e).value = .ok response) :
    (handleEach methods client (e :: rest)).value =
        gather (.ok response) (handleEach methods client rest).value ∧
      (handleEach methods client (e :: rest)).events =
        (handleSingle methods client e).events ++ (handleEach methods client rest).events := by
  have going : isHalted (.ok response) = false := rfl
  simp [handleEach, h, going]

/-- A request that fails takes the batch with it. -/
theorem handleEach_cons_of_error {e : Json} {fault : ServeFault} (rest : List Json)
    (h : (handleSingle methods client e).value = .error fault) :
    (handleEach methods client (e :: rest)).value = .error fault := by
  have failed (others : Except ServeFault (List Response)) :
      gather (.error fault) others = .error fault := rfl
  simp only [handleEach, Traced.value_bind, h]
  split <;> simp [failed]

/-- A batch has its responses exactly if no request of it fails, and then each leaves behind what
it does. -/
theorem handleEach_eq_ok_iff {requests : List Json} {rs : List Response} :
    (handleEach methods client requests).value = .ok rs ↔
      ∃ os, List.Forall₂ (fun e o => (handleSingle methods client e).value = .ok o) requests os ∧
        rs = os.reduceOption := by
  induction requests generalizing rs with
  | nil => simp [handleEach, List.forall₂_nil_left_iff, List.reduceOption, eq_comm]
  | cons e rest ih =>
    cases single : (handleSingle methods client e).value with
    | error fault =>
      rw [handleEach_cons_of_error rest single]
      simp [List.forall₂_cons_left_iff, single]
    | ok response =>
      rw [(handleEach_cons_of_ok rest single).1, gather_eq_ok_iff]
      constructor
      · rintro ⟨_, responses, same, others, rfl⟩
        cases same
        obtain ⟨os, all, rfl⟩ := ih.1 others
        refine ⟨response :: os, .cons single all, ?_⟩
        cases response <;> simp [List.reduceOption]
      · rintro ⟨_, all, rfl⟩
        obtain ⟨o, os, own, others, rfl⟩ := List.forall₂_cons_left_iff.1 all
        obtain rfl : response = o := by simpa [single] using own
        refine ⟨response, _, rfl, ih.2 ⟨os, others, rfl⟩, ?_⟩
        cases response <;> simp [List.reduceOption]

theorem handleEach_events {requests : List Json}
    (h : ∀ e ∈ requests, ∃ response, (handleSingle methods client e).value = .ok response) :
    (handleEach methods client requests).events =
      requests.flatMap fun e => (handleSingle methods client e).events := by
  induction requests with
  | nil => rfl
  | cons e rest ih =>
    obtain ⟨response, single⟩ := h e (by simp)
    rw [(handleEach_cons_of_ok rest single).2, ih fun e' mem => h e' (List.mem_cons_of_mem e mem),
      List.flatMap_cons]

/-! ## What is said in answer -/

variable {depth : Nat}

theorem handleValue_array {requests : List Json} (h : requests ≠ []) :
    (handleValue depth methods client (.array requests)).value =
        (handleEach methods client requests).value.bind (encodeAll depth) ∧
      (handleValue depth methods client (.array requests)).events =
        (handleEach methods client requests).events := by
  cases requests with
  | nil => exact absurd rfl h
  | cons e rest => exact ⟨rfl, by simp [handleValue]⟩

/-- What is said in answer to requests is what the responses of their batch say. -/
theorem handleEach_of_yields {requests : List Json} {responses : List (Option Json)}
    (h : List.Forall₂ (Yields methods client) requests responses) :
    ∃ rs, (handleEach methods client requests).value = .ok rs ∧
      List.Forall₂ Response.Says rs responses.reduceOption := by
  induction h with
  | nil => exact ⟨[], rfl, .nil⟩
  | @cons e response requests responses own _ ih =>
    obtain ⟨rs, others, said⟩ := ih
    cases own with
    | nothing none_ =>
      refine ⟨rs, ?_, by rwa [List.reduceOption_cons_of_none]⟩
      rw [(handleEach_cons_of_ok requests none_).1, others]
      rfl
    | @response r w some_ own =>
      refine ⟨r :: rs, ?_, by rw [List.reduceOption_cons_of_some]; exact .cons own said⟩
      rw [(handleEach_cons_of_ok requests some_).1, others]
      rfl

/-- A batch is answered with the array of what is said in answer to its requests. -/
theorem handleValue_batch {requests : List Json} {responses : List (Option Json)}
    (some_ : requests ≠ []) (h : List.Forall₂ (Yields methods client) requests responses) :
    (handleValue depth methods client (.array requests)).value =
      writtenAnswer depth (arrayOf responses.reduceOption) := by
  obtain ⟨rs, handled, said⟩ := handleEach_of_yields h
  rw [(handleValue_array some_).1, handled]
  exact encodeAll_eq said depth

/-- The responses of a batch that was answered say what answers its requests. -/
theorem yields_of_said {requests : List Json} {os : List (Option Response)} {vs : List Json}
    (handled : List.Forall₂ (fun e o => (handleSingle methods client e).value = .ok o) requests os)
    (said : List.Forall₂ Response.Says os.reduceOption vs) :
    ∃ responses, List.Forall₂ (Yields methods client) requests responses ∧
      responses.reduceOption = vs := by
  induction handled generalizing vs with
  | nil =>
    cases said
    exact ⟨[], .nil, rfl⟩
  | @cons e o requests os own _ ih =>
    cases o with
    | none =>
      rw [List.reduceOption_cons_of_none] at said
      obtain ⟨responses, others, rfl⟩ := ih said
      exact ⟨none :: responses, .cons (.nothing own) others, List.reduceOption_cons_of_none _⟩
    | some r =>
      rw [List.reduceOption_cons_of_some] at said
      obtain ⟨v, vs', first, behind, rfl⟩ := List.forall₂_cons_left_iff.1 said
      obtain ⟨responses, others, rfl⟩ := ih behind
      exact ⟨some v :: responses, .cons (.response own first) others,
        List.reduceOption_cons_of_some _ _⟩

/-- A batch is answered exactly if something is said in answer to each of its requests, or nothing
is owed to it, and the array of that can be written. -/
theorem handleValue_batch_eq_ok_iff {requests : List Json} {answer : Option String}
    (some_ : requests ≠ []) :
    (handleValue depth methods client (.array requests)).value = .ok answer ↔
      ∃ responses, List.Forall₂ (Yields methods client) requests responses ∧
        writtenAnswer depth (arrayOf responses.reduceOption) = .ok answer := by
  constructor
  · intro h
    rw [(handleValue_array some_).1] at h
    cases handled : (handleEach methods client requests).value with
    | error fault => simp [handled, Except.bind] at h
    | ok rs =>
      obtain ⟨os, all, rfl⟩ := handleEach_eq_ok_iff.1 handled
      have encoded : encodeAll depth os.reduceOption = .ok answer := by
        rw [handled] at h
        exact h
      obtain ⟨vs, said, written⟩ := encodeAll_eq_ok_iff.1 encoded
      obtain ⟨responses, yields, rfl⟩ := yields_of_said all said
      exact ⟨responses, yields, written⟩
  · rintro ⟨responses, yields, written⟩
    rw [handleValue_batch some_ yields, written]

/-! ## Texts -/

/-- The text of a batch that is answered with these texts, if any of its requests is. -/
def joined (texts : List (Option String)) : Option String :=
  if texts.reduceOption = [] then none
  else some ("[" ++ ", ".intercalate texts.reduceOption ++ "]")

theorem joined_map_write (responses : List (Option Json)) :
    joined (responses.map (Option.map (Json.write .spaced))) =
      (arrayOf responses.reduceOption).map (Json.write .spaced) := by
  simp only [joined, arrayOf, List.reduceOption_map, List.map_eq_nil_iff]
  split
  · rfl
  · rw [← write_array]
    rfl

theorem arrayOf_eq_none_iff {responses : List (Option Json)} :
    arrayOf responses.reduceOption = none ↔ ∀ response ∈ responses, response = none := by
  have all : responses.reduceOption = [] ↔ ∀ response ∈ responses, response = none := by
    rw [List.reduceOption, List.filterMap_eq_nil_iff]
    rfl
  rw [← all, arrayOf]
  split <;> simp_all

/-- An array can be written only if there is room for each of its items one step further in. -/
theorem fits_of_arrayOf {responses : List (Option Json)} {w : Json} (mem : some w ∈ responses)
    (h : ∀ v ∈ arrayOf responses.reduceOption, v.Fits Decimal.digitLimit depth) :
    ∃ inner, depth = inner + 1 ∧ w.Fits Decimal.digitLimit inner := by
  have there : w ∈ responses.reduceOption := List.reduceOption_mem_iff.2 mem
  have some_ : responses.reduceOption ≠ [] := List.ne_nil_of_mem there
  have fits := h (.array responses.reduceOption) (by simp [arrayOf, some_])
  cases depth with
  | zero => cases fits
  | succ inner => exact ⟨inner, rfl, Json.fits_array_iff.1 fits w there⟩

end LedgerGateway.Rpc
