import LedgerGateway.Proofs.JsonSteps

/-!
# The JSON reader takes all that is spelt

What a text spells is read, whatever follows it, as long as no limit is passed; and nothing that is
spelt is reported as malformed, with however many digits and at whatever depth. The proof is by
induction on the spelling, with one lemma for each of its forms. A limit is found by the same means:
a step of `Descends` that leads to a point where the reader stops comes from such a point.

* `complete` — every part of a text that is spelt is read, or else passes a limit.
* `read_of_spelt` — a value that is spelt within the limits is read.
* `Descends.stops` and `Point.Overruns.stops` — where a limit is passed the reader stops at one.
-/

namespace LedgerGateway.Json

open Text.Unread
open Decimal (digitLimit)

/-! ## How parts of a text begin -/

/-- A character that may stand in front of a value: in ASCII, no gap and no closing mark. -/
structure Opens (c : Char) : Prop where
  ascii : c.toNat < 0x80
  noGap : isGap c = false
  noBracket : c ≠ ']'
  noBrace : c ≠ '}'

/-- A text in front of which a value may stand. -/
def Begins (s : List Char) : Prop := ∃ c t, s = c :: t ∧ Opens c

theorem Begins.append {s : List Char} (h : Begins s) (r : List Char) : Begins (s ++ r) := by
  obtain ⟨c, t, rfl, opens⟩ := h
  exact ⟨c, t ++ r, rfl, opens⟩

theorem digit_le {c : Char} (h : c.isDigit = true) : c.toNat ≤ 57 := by
  simp only [Char.isDigit, Bool.and_eq_true, decide_eq_true_eq, UInt32.le_iff_toNat_le] at h
  exact h.2

theorem isGap_iff {c : Char} : isGap c = true ↔ c = ' ' ∨ c = '\t' ∨ c = '\n' ∨ c = '\r' := by
  simp [isGap, or_assoc]

theorem opens_digit {c : Char} (h : c.isDigit = true) : Opens c := by
  refine ⟨Nat.lt_of_le_of_lt (digit_le h) (by decide), ?_, ?_, ?_⟩
  · refine Bool.eq_false_iff.2 fun gap => ?_
    obtain rfl | rfl | rfl | rfl := isGap_iff.1 gap <;> exact absurd h (by decide)
  all_goals
    rintro rfl
    exact absurd h (by decide)

theorem word_begins {w : List Char} {v : Json} (h : (w, v) ∈ words) : Begins w := by
  simp only [words, List.mem_cons, Prod.mk.injEq, List.not_mem_nil, or_false] at h
  obtain ⟨rfl, -⟩ | ⟨rfl, -⟩ | ⟨rfl, -⟩ | ⟨rfl, -⟩ | ⟨rfl, -⟩ | ⟨rfl, -⟩ := h <;>
    exact ⟨_, _, rfl, by constructor <;> decide⟩

theorem numeral_begins {n : Numeral} {s : List Char} (h : n.Spells s) : Begins s := by
  obtain ⟨regular, letter, -, rfl⟩ := h
  cases sign : n.negative with
  | false => exact ⟨n.first, _, by rw [Numeral.chars, sign]; rfl, opens_digit regular.first⟩
  | true => exact ⟨'-', _, by rw [Numeral.chars, sign]; rfl, by constructor <;> decide⟩

/-- No numeral is taken for a string, an array or an object. -/
theorem numeral_head {n : Numeral} {s : List Char} (h : n.Spells s) :
    ∃ c t, s = c :: t ∧ c ≠ '"' ∧ c ≠ '[' ∧ c ≠ '{' := by
  obtain ⟨regular, letter, -, rfl⟩ := h
  cases sign : n.negative with
  | false =>
    refine ⟨n.first, _, by rw [Numeral.chars, sign]; rfl, ?_⟩
    refine ⟨?_, ?_, ?_⟩ <;>
      exact fun eq => absurd regular.first (by rw [eq]; decide)
  | true => exact ⟨'-', _, by rw [Numeral.chars, sign]; rfl, by decide⟩

theorem Label.begins {name : String} {l : List Char} (h : Label name l) : Begins l := by
  cases h
  exact ⟨'"', _, rfl, by constructor <;> decide⟩

variable {W : List (List Char × Json)} {digits : Nat}

theorem Spelt.begins (known : ∀ w ∈ W, w ∈ words) {depth : Nat} {node : Node} {s : List Char}
    (h : Spelt W digits depth node s) : Begins s := by
  induction h with
  | word h => exact word_begins (known _ h)
  | number h => exact numeral_begins h
  | string | emptyArray | array | emptyObject | object =>
    exact ⟨_, _, rfl, by constructor <;> decide⟩
  | lastItem _ _ ih | item _ _ _ ih => exact ih.append _
  | lastMember label | member label => exact label.begins.append _

theorem Begins.skipGap_eq {s : List Char} (h : Begins s) {g : List Char} (gap : Gap g) :
    (skipGap (g ++ s)).val = s := by
  obtain ⟨c, t, rfl, opens⟩ := h
  rw [skipGap_append gap, skipGap_cons opens.noGap]

/-- What begins a value does not close an array or an object. -/
theorem Begins.no_closing {s : List Char} (h : Begins s) {mark : Char}
    (closing : mark = ']' ∨ mark = '}') {g : List Char} (gap : Gap g) :
    behindMark? mark (g ++ s) = none := by
  obtain ⟨c, t, rfl, opens⟩ := h
  have other : c ≠ mark := by
    obtain rfl | rfl := closing
    · exact opens.noBracket
    · exact opens.noBrace
  rw [behindMark?_append gap, behindMark?_cons opens.noGap, if_neg other]

/-! ## What ends a value -/

/-- The marks that end a value. -/
def Ender (c : Char) : Prop := c = ',' ∨ c = ']' ∨ c = '}'

theorem ends_of_gap_cons {c : Char} (gap : isGap c = true) (r : List Char) :
    Numeral.Ends (c :: r) := by
  intro d head
  obtain rfl : c = d := Option.some.inj head
  obtain rfl | rfl | rfl | rfl := isGap_iff.1 gap <;> decide

theorem ends_of_gap {g : List Char} (gap : Gap g) : Numeral.Ends g := by
  cases g with
  | nil => exact fun c h => absurd h (by simp)
  | cons c g => exact ends_of_gap_cons (gap c (by simp)) g

theorem ends_append {g : List Char} (gap : Gap g) {c : Char} (ender : Ender c) (r : List Char) :
    Numeral.Ends (g ++ c :: r) := by
  cases g with
  | nil =>
    intro d head
    obtain rfl : c = d := Option.some.inj head
    obtain rfl | rfl | rfl := ender <;> decide
  | cons b g => exact ends_of_gap_cons (gap b (by simp)) _

theorem Closing.ends {mark : Char} {z : List Char} (h : Closing mark z) (ender : Ender mark)
    (r : List Char) : Numeral.Ends (z ++ r) := by
  obtain ⟨g, gap, rfl⟩ := h
  rw [List.append_assoc]
  exact ends_append gap ender r

theorem Marked.ends {mark : Char} {m : List Char} (h : Marked mark m) (ender : Ender mark)
    (r : List Char) : Numeral.Ends (m ++ r) := by
  obtain ⟨g, g', gap, -, rfl⟩ := h
  rw [List.append_assoc]
  exact ends_append gap ender _

theorem Closing.behindMark?_eq {mark : Char} {z : List Char} (h : Closing mark z)
    (solid : isGap mark = false) (r : List Char) : behindMark? mark (z ++ r) = some r := by
  obtain ⟨g, gap, rfl⟩ := h
  rw [List.append_assoc, behindMark?_append gap, List.singleton_append, behindMark?_cons solid,
    if_pos rfl]

/-- Behind a mark the reader finds what begins the next value. -/
theorem Marked.behindMark?_eq {mark : Char} {m : List Char} (h : Marked mark m)
    (solid : isGap mark = false) {s : List Char} (begins : Begins s) :
    ∃ t, behindMark? mark (m ++ s) = some t ∧ (skipGap t).val = s := by
  obtain ⟨g, g', gap, gap', rfl⟩ := h
  refine ⟨g' ++ s, ?_, begins.skipGap_eq gap'⟩
  rw [List.append_assoc, behindMark?_append gap, List.cons_append, behindMark?_cons solid,
    if_pos rfl]

theorem Marked.behindMark?_other {mark : Char} {m : List Char} (h : Marked mark m)
    (solid : isGap mark = false) {other : Char} (ne : mark ≠ other) (s : List Char) :
    behindMark? other (m ++ s) = none := by
  obtain ⟨g, g', gap, -, rfl⟩ := h
  rw [List.append_assoc, behindMark?_append gap, List.cons_append, behindMark?_cons solid,
    if_neg ne]

/-- Behind a name and its colon the reader finds a value. -/
theorem Label.read {name : String} {l : List Char} (h : Label name l) (depth : Nat)
    (acc : List (String × Json)) {s : List Char} (begins : Begins s) :
    bare (readMembers depth acc (l ++ s)) =
      match bare (readValue depth s) with
      | .error e => .error e
      | .ok (v, r) => bare (readMore depth ((name, v) :: acc) r) := by
  obtain ⟨quoted, marked⟩ := h
  rename_i t q m
  obtain ⟨t', found, eq⟩ := marked.behindMark?_eq rfl begins
  have body := readBody_of_quoted quoted ('"' :: (q ++ (m ++ s))) [] (m ++ s)
  rw [List.cons_append, List.append_assoc]
  subst eq
  exact bare_readMembers_of_name depth acc body found

/-! ## What is spelt is read -/

/-- Reading gave a result, or stopped at a limit, which does not happen to what fits. -/
def Gives {β : Type} (fits : Prop) (x : Except Stop β) (y : β) : Prop :=
  x = .ok y ∨ ¬ fits ∧ ∃ e, x = .error e ∧ e.IsLimit

/-- What a part of a text spells is read, whatever follows it; a value that is a number has to end
where the numeral does. -/
def Complete (fits : Prop) (depth : Nat) (s : List Char) : Node → Prop
  | .value v => ∀ r, Numeral.Ends r → Gives fits (bare (readValue depth (s ++ r))) (v, r)
  | .items vs => ∀ acc r,
    Gives fits (bare (readItems depth acc (s ++ r))) (acc.reverse ++ vs, r)
  | .members ms => ∀ acc r,
    Gives fits (bare (readMembers depth acc (s ++ r))) (acc.reverse ++ ms, r)

theorem Gives.of_ok {β : Type} {fits : Prop} {x : Except Stop β} {y : β} (h : x = .ok y) :
    Gives fits x y :=
  .inl h

theorem Gives.of_limit {β : Type} {fits : Prop} {x : Except Stop β} {y : β} {e : Stop}
    (h : x = .error e) (limit : e.IsLimit) (not : ¬ fits) : Gives fits x y :=
  .inr ⟨not, e, h, limit⟩

/-- An array or an object does not fit where there is no room. -/
theorem Gives.of_no_room {β : Type} {some_ : Prop} {room : Nat} {x : Except Stop β} {y : β}
    (stops : ∃ e, x = .error e ∧ e.IsLimit) : Gives (some_ ∧ room + 1 ≤ 0) x y :=
  .inr ⟨fun fits => absurd fits.2 (by omega), stops⟩

variable {fits : Prop} {depth : Nat}

theorem complete_scalar {s r : List Char} {v : Json} {c : Char} {t : List Char} (eq : s = c :: t)
    (scalar : c ≠ '"' ∧ c ≠ '[' ∧ c ≠ '{') (h : Gives fits (bare (readScalar (s ++ r))) (v, r)) :
    Gives fits (bare (readValue depth (s ++ r))) (v, r) := by
  rw [readValue_scalar depth]
  · exact h
  · intro c' head
    rw [eq, List.cons_append, List.head?_cons, Option.some.injEq] at head
    rw [← head]
    exact scalar

theorem complete_word {w : List Char} {v : Json} (mem : (w, v) ∈ words) (r : List Char) :
    Gives fits (bare (readValue depth (w ++ r))) (v, r) := by
  have read : bare (readScalar (w ++ r)) = .ok (v, r) := by
    rw [bare_readScalar, find?_word mem]
    simp only [List.drop_left]
  simp only [words, List.mem_cons, Prod.mk.injEq, List.not_mem_nil, or_false] at mem
  obtain ⟨rfl, rfl⟩ | ⟨rfl, rfl⟩ | ⟨rfl, rfl⟩ | ⟨rfl, rfl⟩ | ⟨rfl, rfl⟩ | ⟨rfl, rfl⟩ := mem <;>
    exact complete_scalar rfl (by decide) (.of_ok read)

theorem complete_number {n : Numeral} {s r : List Char} (spells : n.Spells s)
    (ends : Numeral.Ends r) (few : fits → n.isInteger = true → n.count ≤ digitLimit) :
    Gives fits (bare (readValue depth (s ++ r))) (n.number, r) := by
  have read : Gives fits (bare (readScalar (s ++ r))) (n.number, r) := by
    rw [bare_readScalar, find?_numeral spells, Numeral.scan_of_spells spells ends]
    simp only
    -- A number passes a limit only by its digits, and one that fits has few enough.
    obtain ⟨value, -⟩ | ⟨value, integer, many⟩ := n.value_cases
    · rw [value]
      simp only [← spells.length_eq, List.drop_left]
      exact .of_ok rfl
    · rw [value]
      refine .of_limit rfl trivial fun h => ?_
      have := few h integer
      omega
  obtain ⟨c, t, eq, scalar⟩ := numeral_head spells
  exact complete_scalar eq scalar read

theorem complete_array {vs : List Json} {g s r : List Char} (begins : Begins s) (gap : Gap g)
    (inner : Complete fits depth s (.items vs)) :
    Gives fits (bare (readValue (depth + 1) ('[' :: (g ++ s) ++ r))) (.array vs, r) := by
  have begins' := begins.append r
  rw [List.cons_append, List.append_assoc, bare_readValue_array,
    begins'.no_closing (.inl rfl) gap, begins'.skipGap_eq gap]
  obtain ok | ⟨not, e, error, limit⟩ := inner [] r
  · rw [ok]
    exact .of_ok rfl
  · rw [error]
    exact .of_limit rfl limit not

theorem complete_object {ms : List (String × Json)} {g s r : List Char} (begins : Begins s)
    (gap : Gap g) (inner : Complete fits depth s (.members ms)) :
    Gives fits (bare (readValue (depth + 1) ('{' :: (g ++ s) ++ r)))
      (.object (Association.ofPairs ms), r) := by
  have begins' := begins.append r
  rw [List.cons_append, List.append_assoc, bare_readValue_object,
    begins'.no_closing (.inr rfl) gap, begins'.skipGap_eq gap]
  obtain ok | ⟨not, e, error, limit⟩ := inner [] r
  · rw [ok]
    exact .of_ok rfl
  · rw [error]
    exact .of_limit rfl limit not

theorem complete_lastItem {v : Json} {s z : List Char} (closing : Closing ']' z)
    (value : Complete fits depth s (.value v)) :
    Complete fits depth (s ++ z) (.items [v]) := by
  intro acc r
  rw [List.append_assoc, bare_readItems]
  obtain ok | ⟨not, e, error, limit⟩ := value (z ++ r) (closing.ends (by simp [Ender]) r)
  · rw [ok]
    simp only [closing.behindMark?_eq rfl]
    exact .of_ok (by simp)
  · rw [error]
    exact .of_limit rfl limit not

theorem complete_item {v : Json} {vs : List Json} {s m t : List Char} (begins : Begins t)
    (marked : Marked ',' m) (value : Complete fits depth s (.value v))
    (others : Complete fits depth t (.items vs)) :
    Complete fits depth (s ++ (m ++ t)) (.items (v :: vs)) := by
  intro acc r
  have noEnd : behindMark? ']' (m ++ (t ++ r)) = none :=
    marked.behindMark?_other rfl (by decide) _
  obtain ⟨behind, found, skipped⟩ := marked.behindMark?_eq rfl (begins.append r)
  rw [List.append_assoc, List.append_assoc, bare_readItems]
  obtain ok | ⟨not, e, error, limit⟩ := value (m ++ (t ++ r)) (marked.ends (by simp [Ender]) _)
  · rw [ok]
    simp only [noEnd, found]
    rw [skipped]
    simpa using others (v :: acc) r
  · rw [error]
    exact .of_limit rfl limit not

theorem complete_lastMember {name : String} {v : Json} {l s z : List Char} (begins : Begins s)
    (label : Label name l) (closing : Closing '}' z) (value : Complete fits depth s (.value v)) :
    Complete fits depth (l ++ (s ++ z)) (.members [(name, v)]) := by
  intro acc r
  rw [List.append_assoc, List.append_assoc, label.read depth acc (begins.append _)]
  obtain ok | ⟨not, e, error, limit⟩ := value (z ++ r) (closing.ends (by simp [Ender]) r)
  · rw [ok]
    simp only [bare_readMore, closing.behindMark?_eq rfl]
    exact .of_ok (by simp)
  · rw [error]
    exact .of_limit rfl limit not

theorem complete_member {name : String} {v : Json} {ms : List (String × Json)}
    {l s m t : List Char} (begins : Begins s) (begins' : Begins t) (label : Label name l)
    (marked : Marked ',' m) (value : Complete fits depth s (.value v))
    (others : Complete fits depth t (.members ms)) :
    Complete fits depth (l ++ (s ++ (m ++ t))) (.members ((name, v) :: ms)) := by
  intro acc r
  have noEnd : behindMark? '}' (m ++ (t ++ r)) = none :=
    marked.behindMark?_other rfl (by decide) _
  obtain ⟨behind, found, skipped⟩ := marked.behindMark?_eq rfl (begins'.append r)
  rw [List.append_assoc, List.append_assoc, List.append_assoc,
    label.read depth acc (begins.append _)]
  obtain ok | ⟨not, e, error, limit⟩ := value (m ++ (t ++ r)) (marked.ends (by simp [Ender]) _)
  · rw [ok]
    simp only [bare_readMore, noEnd, found]
    rw [skipped]
    simpa using others ((name, v) :: acc) r
  · rw [error]
    exact .of_limit rfl limit not

theorem bare_readValue_array_zero (rest : List Char) :
    ∃ e, bare (readValue 0 ('[' :: rest)) = .error e ∧ e.IsLimit :=
  ⟨.tooDeep .array, congrArg bare (readValue_array_zero rest), trivial⟩

theorem bare_readValue_object_zero (rest : List Char) :
    ∃ e, bare (readValue 0 ('{' :: rest)) = .error e ∧ e.IsLimit :=
  ⟨.tooDeep .object, congrArg bare (readValue_object_zero rest), trivial⟩

/-- Every part of a text that is spelt is read, or else passes a limit: nothing in it is
malformed. -/
theorem complete (known : ∀ w ∈ W, w ∈ words) {room : Nat} {node : Node} {s : List Char}
    (h : Spelt W digits room node s) (depth : Nat) :
    Complete (digits ≤ digitLimit ∧ room ≤ depth) depth s node := by
  induction h generalizing depth with
  | word mem => exact fun r _ => complete_word (known _ mem) r
  | number spells few =>
    exact fun r ends => complete_number spells ends fun fits integer =>
      Nat.le_trans (few integer) fits.1
  | string quoted =>
    intro r _
    rw [List.cons_append, bare_readValue_string, readBody_of_quoted quoted]
    exact .of_ok rfl
  | @emptyArray room z closing =>
    intro r _
    cases depth with
    | zero => exact .of_no_room (bare_readValue_array_zero _)
    | succ depth =>
      rw [List.cons_append, bare_readValue_array, closing.behindMark?_eq rfl]
      exact .of_ok rfl
  | @array room g vs s gap spelt ih =>
    intro r _
    cases depth with
    | zero => exact .of_no_room (bare_readValue_array_zero _)
    | succ depth =>
      rw [Nat.succ_le_succ_iff]
      exact complete_array (spelt.begins known) gap (ih depth)
  | @emptyObject room z closing =>
    intro r _
    cases depth with
    | zero => exact .of_no_room (bare_readValue_object_zero _)
    | succ depth =>
      rw [List.cons_append, bare_readValue_object, closing.behindMark?_eq rfl]
      exact .of_ok rfl
  | @object room g ms s gap spelt ih =>
    intro r _
    cases depth with
    | zero => exact .of_no_room (bare_readValue_object_zero _)
    | succ depth =>
      rw [Nat.succ_le_succ_iff]
      exact complete_object (spelt.begins known) gap (ih depth)
  | lastItem _ closing ih => exact complete_lastItem closing (ih depth)
  | item _ marked spelt' ih ih' =>
    exact complete_item (spelt'.begins known) marked (ih depth) (ih' depth)
  | lastMember label spelt closing ih =>
    exact complete_lastMember (spelt.begins known) label closing (ih depth)
  | member label spelt marked spelt' ih ih' =>
    exact complete_member (spelt.begins known) (spelt'.begins known) label marked (ih depth)
      (ih' depth)

/-- A value that is spelt within the limits is read. -/
theorem read_of_spelt {v : Json} {s : List Char}
    (h : Spelt words digitLimit depth (.value v) s) {r : List Char} (ends : Numeral.Ends r) :
    bare (readValue depth (s ++ r)) = .ok (v, r) := by
  obtain ok | ⟨not, -⟩ := complete (fun _ => id) h depth r ends
  · exact ok
  · exact absurd ⟨Nat.le_refl _, Nat.le_refl _⟩ not

/-! ## Passing a limit stops the reader -/

/-- The reader stops at a limit, here or later. -/
def Point.Stops (p : Point) : Prop :=
  match p.expected with
  | .value => ∃ e, bare (readValue p.depth p.text) = .error e ∧ e.IsLimit
  | .items => ∀ acc, ∃ e, bare (readItems p.depth acc p.text) = .error e ∧ e.IsLimit
  | .members => ∀ acc, ∃ e, bare (readMembers p.depth acc p.text) = .error e ∧ e.IsLimit

theorem Point.Excessive.stops {p : Point} (h : p.Excessive) : p.Stops := by
  cases h with
  | array => exact bare_readValue_array_zero _
  | object => exact bare_readValue_object_zero _
  | @number depth n s longest integer many =>
    have scanned := Numeral.scan_eq_some_iff.2 longest
    obtain ⟨s', spells, ⟨r, rfl⟩, -⟩ := longest
    obtain ⟨c, t, rfl, scalar⟩ := numeral_head spells
    obtain ⟨-, few⟩ | ⟨value, -⟩ := n.value_cases
    · exact absurd (few integer) (by omega)
    · -- The numeral is no word and no string, so its value is asked for, and that is refused.
      refine ⟨.tooManyDigits n.count, ?_, trivial⟩
      show bare (readValue depth (c :: t ++ r)) = _
      rw [readValue_scalar, bare_readScalar, find?_numeral spells, scanned]
      · simp only [value]
      · intro c' head
        rw [← Option.some.inj head]
        exact scalar

theorem Point.Excessive.begins {p : Point} (h : p.Excessive) : Begins p.text := by
  cases h with
  | array | object => exact ⟨_, _, rfl, by constructor <;> decide⟩
  | number longest =>
    obtain ⟨s', spells, ⟨r, eq⟩, -⟩ := longest
    rw [← eq]
    exact (numeral_begins spells).append r

theorem Descends.begins {p q : Point} (h : Descends p q) (begins : Begins q.text) :
    Begins p.text := by
  cases h with
  | array | object => exact ⟨_, _, rfl, by constructor <;> decide⟩
  | item => exact begins
  | pastItem spelt => exact (spelt.begins fun _ => id).append _
  | member label | pastMember label => exact label.begins.append _

/-- Where the reader stops at a limit, it stops at it from the point before. -/
theorem Descends.stops {p q : Point} (h : Descends p q) (begins : Begins q.text)
    (stops : q.Stops) : p.Stops := by
  cases h with
  | array gap =>
    obtain ⟨e, error, limit⟩ := stops []
    refine ⟨e, ?_, limit⟩
    rw [bare_readValue_array, begins.no_closing (.inl rfl) gap, begins.skipGap_eq gap, error]
  | object gap =>
    obtain ⟨e, error, limit⟩ := stops []
    refine ⟨e, ?_, limit⟩
    rw [bare_readValue_object, begins.no_closing (.inr rfl) gap, begins.skipGap_eq gap, error]
  | item =>
    intro acc
    obtain ⟨e, error, limit⟩ := stops
    refine ⟨e, ?_, limit⟩
    rw [bare_readItems, error]
  | @pastItem depth v p m s spelt marked =>
    intro acc
    obtain ⟨behind, found, skipped⟩ := marked.behindMark?_eq rfl begins
    have noEnd : behindMark? ']' (m ++ s) = none := marked.behindMark?_other rfl (by decide) _
    -- The item in front is within the limits, so the reader gets past it and its comma.
    obtain ⟨e, error, limit⟩ := stops (v :: acc)
    refine ⟨e, ?_, limit⟩
    rw [bare_readItems, read_of_spelt spelt (marked.ends (by simp [Ender]) _)]
    simp only [noEnd, found]
    rw [skipped, error]
  | member label =>
    intro acc
    obtain ⟨e, error, limit⟩ := stops
    refine ⟨e, ?_, limit⟩
    rw [label.read _ acc begins, error]
  | @pastMember depth name l v p m s label spelt marked =>
    intro acc
    obtain ⟨behind, found, skipped⟩ := marked.behindMark?_eq rfl begins
    have noEnd : behindMark? '}' (m ++ s) = none := marked.behindMark?_other rfl (by decide) _
    obtain ⟨e, error, limit⟩ := stops ((name, v) :: acc)
    refine ⟨e, ?_, limit⟩
    rw [label.read _ acc ((spelt.begins fun _ => id).append _),
      read_of_spelt spelt (marked.ends (by simp [Ender]) _)]
    simp only [bare_readMore, noEnd, found]
    rw [skipped, error]

/-- Where a limit is passed the reader stops at one. -/
theorem Point.Overruns.stops {p : Point} (h : p.Overruns) : Begins p.text ∧ p.Stops := by
  obtain ⟨q, path, excessive⟩ := h
  -- From the point where the limit is passed back to the first one.
  induction path using Relation.ReflTransGen.head_induction_on with
  | refl => exact ⟨excessive.begins, excessive.stops⟩
  | head step _ ih => exact ⟨step.begins ih.1, step.stops ih.1 ih.2⟩

end LedgerGateway.Json
