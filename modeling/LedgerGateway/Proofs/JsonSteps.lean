import LedgerGateway.Proofs.JsonNumbers
import LedgerGateway.Proofs.JsonStrings

/-!
# The steps of the JSON reader

Each function of the reader carries proofs that what it leaves is shorter than what it took. Here
each has an equation without them, in which a mark that is looked for behind a gap is
`behindMark?`. Whatever else is proved of the reader is proved from these equations.

* `bare_readValue_array`, `bare_readValue_object`, `bare_readItems`, `bare_readMembers` and
  `bare_readMore` — how values are read inside others.
* `bare_readScalar` — how words and numbers are read.
* `closing_of_behindMark?` and `marked_of_behindMark?` — what stands in front of the text behind a
  mark.
* `find?_word` and `find?_numeral` — words and numbers cannot be taken for one another.
-/

namespace LedgerGateway.Json

open Text.Unread

/-! ## Marks -/

/-- The text behind a mark that may have a gap in front, if the mark comes next. -/
def behindMark? (mark : Char) (s : List Char) : Option (List Char) :=
  (expect mark (skipGap s).val).map Subtype.val

theorem behindMark?_eq_some_iff {mark : Char} {s t : List Char} :
    behindMark? mark s = some t ↔ s.dropWhile isGap = mark :: t := by
  show (expect mark (s.dropWhile isGap)).map Subtype.val = some t ↔ _
  cases s.dropWhile isGap with
  | nil => simp [expect]
  | cons c rest =>
    by_cases h : c = mark
    · simp [expect, h, tail]
    · simp [expect, h]

/-! ## Values -/

theorem bare_readValue_string (depth : Nat) (rest : List Char) :
    bare (readValue depth ('"' :: rest)) =
      match bare (readBody ('"' :: rest) [] rest) with
      | .error e => .error e
      | .ok (t, r) => .ok (.string (String.ofList t), r) := by
  rw [readValue]
  cases readBody ('"' :: rest) [] rest <;> rfl

theorem readValue_array_zero (rest : List Char) :
    readValue 0 ('[' :: rest) = .error (.tooDeep .array) := by
  rw [readValue]

theorem readValue_object_zero (rest : List Char) :
    readValue 0 ('{' :: rest) = .error (.tooDeep .object) := by
  rw [readValue]

theorem bare_readValue_array (depth : Nat) (rest : List Char) :
    bare (readValue (depth + 1) ('[' :: rest)) =
      match behindMark? ']' rest with
      | some r => .ok (.array [], r)
      | none =>
        match bare (readItems depth [] (skipGap rest).val) with
        | .error e => .error e
        | .ok (items, r) => .ok (.array items, r) := by
  rw [readValue, behindMark?]
  obtain ⟨r, h⟩ := skipGap rest
  simp only
  cases expect ']' r with
  | some a => rfl
  | none =>
    simp only [Option.map_none]
    cases readItems depth [] r <;> rfl

theorem bare_readValue_object (depth : Nat) (rest : List Char) :
    bare (readValue (depth + 1) ('{' :: rest)) =
      match behindMark? '}' rest with
      | some r => .ok (.object [], r)
      | none =>
        match bare (readMembers depth [] (skipGap rest).val) with
        | .error e => .error e
        | .ok (members, r) => .ok (.object (Association.ofPairs members), r) := by
  rw [readValue, behindMark?]
  obtain ⟨r, h⟩ := skipGap rest
  simp only
  cases expect '}' r with
  | some a => rfl
  | none =>
    simp only [Option.map_none]
    cases readMembers depth [] r <;> rfl

theorem readValue_scalar (depth : Nat) {s : List Char}
    (h : ∀ c, s.head? = some c → c ≠ '"' ∧ c ≠ '[' ∧ c ≠ '{') :
    readValue depth s = readScalar s := by
  rw [readValue]
  all_goals
    rintro rest rfl
    simpa using h _ rfl

theorem bare_readItems (depth : Nat) (acc : List Json) (s : List Char) :
    bare (readItems depth acc s) =
      match bare (readValue depth s) with
      | .error e => .error e
      | .ok (v, r) =>
        match behindMark? ']' r with
        | some t => .ok ((v :: acc).reverse, t)
        | none =>
          match behindMark? ',' r with
          | some t => bare (readItems depth (v :: acc) (skipGap t).val)
          | none => .error (.malformed .expectingComma (skipGap r).val) := by
  rw [readItems]
  cases hv : readValue depth s with
  | error e => rfl
  | ok p =>
    obtain ⟨v, r, short⟩ := p
    simp only [bare_ok, behindMark?]
    obtain ⟨r, h⟩ := skipGap r
    simp only
    cases expect ']' r with
    | some a => rfl
    | none =>
      simp only [Option.map_none]
      cases expect ',' r with
      | none => rfl
      | some a =>
        obtain ⟨t, shorter⟩ := a
        simp only [Option.map_some]
        obtain ⟨t, h'⟩ := skipGap t
        simp only
        cases readItems depth (v :: acc) t <;> rfl

/-- How reading goes on behind the value of a member. -/
theorem bare_readMore (depth : Nat) (acc : List (String × Json)) (s : List Char) :
    bare (readMore depth acc s) =
      match behindMark? '}' s with
      | some t => .ok (acc.reverse, t)
      | none =>
        match behindMark? ',' s with
        | some t => bare (readMembers depth acc (skipGap t).val)
        | none => .error (.malformed .expectingComma (skipGap s).val) := by
  rw [readMore]
  simp only [behindMark?]
  obtain ⟨r, h⟩ := skipGap s
  simp only
  cases expect '}' r with
  | some a => rfl
  | none =>
    simp only [Option.map_none]
    cases expect ',' r with
    | none => rfl
    | some a =>
      obtain ⟨t, shorter⟩ := a
      simp only [Option.map_some]
      obtain ⟨t, h'⟩ := skipGap t
      simp only
      cases readMembers depth acc t <;> rfl

theorem bare_readMembers (depth : Nat) (acc : List (String × Json)) (rest : List Char) :
    bare (readMembers depth acc ('"' :: rest)) =
      match bare (readBody ('"' :: rest) [] rest) with
      | .error e => .error e
      | .ok (name, r) =>
        match behindMark? ':' r with
        | none => .error (.malformed .expectingColon (skipGap r).val)
        | some t =>
          match bare (readValue depth (skipGap t).val) with
          | .error e => .error e
          | .ok (v, r) => bare (readMore depth ((String.ofList name, v) :: acc) r) := by
  rw [readMembers]
  cases readBody ('"' :: rest) [] rest with
  | error e => rfl
  | ok p =>
    obtain ⟨name, r, short⟩ := p
    simp only [bare_ok, behindMark?]
    obtain ⟨r, h⟩ := skipGap r
    simp only
    cases expect ':' r with
    | none => rfl
    | some a =>
      obtain ⟨t, shorter⟩ := a
      simp only [Option.map_some]
      obtain ⟨t, h'⟩ := skipGap t
      simp only
      cases readValue depth t with
      | error e => rfl
      | ok q =>
        obtain ⟨v, r, short⟩ := q
        simp only [bare_ok]
        cases readMore depth ((String.ofList name, v) :: acc) r <;> rfl

/-- Behind a name and its colon a value is read. -/
theorem bare_readMembers_of_name (depth : Nat) (acc : List (String × Json))
    {rest name r t : List Char} (body : bare (readBody ('"' :: rest) [] rest) = .ok (name, r))
    (colon : behindMark? ':' r = some t) :
    bare (readMembers depth acc ('"' :: rest)) =
      match bare (readValue depth (skipGap t).val) with
      | .error e => .error e
      | .ok (v, r) => bare (readMore depth ((String.ofList name, v) :: acc) r) := by
  rw [bare_readMembers, body]
  simp only [colon]

theorem readMembers_of_not_quote (depth : Nat) (acc : List (String × Json)) {s : List Char}
    (h : s.head? ≠ some '"') : readMembers depth acc s = .error (.malformed .expectingName s) := by
  rw [readMembers]
  rintro rest rfl
  exact h rfl

/-! ## Gaps -/

theorem skipGap_append {g : List Char} (h : Gap g) (s : List Char) :
    (skipGap (g ++ s)).val = (skipGap s).val :=
  List.dropWhile_append_of_pos h

theorem skipGap_cons {c : Char} (h : isGap c = false) (s : List Char) :
    (skipGap (c :: s)).val = c :: s :=
  List.dropWhile_cons_of_neg (by simp [h])

theorem exists_gap (s : List Char) : ∃ g, Gap g ∧ s = g ++ (skipGap s).val :=
  ⟨s.takeWhile isGap, fun _ => List.mem_takeWhile_imp, List.takeWhile_append_dropWhile.symm⟩

theorem behindMark?_append {g : List Char} (h : Gap g) (mark : Char) (s : List Char) :
    behindMark? mark (g ++ s) = behindMark? mark s := by
  rw [behindMark?, behindMark?, skipGap_append h]

theorem behindMark?_cons {c : Char} (h : isGap c = false) (mark : Char) (s : List Char) :
    behindMark? mark (c :: s) = if c = mark then some s else none := by
  rw [behindMark?, skipGap_cons h, expect]
  split <;> rfl

theorem closing_of_behindMark? {mark : Char} {s t : List Char}
    (h : behindMark? mark s = some t) : ∃ z, Closing mark z ∧ s = z ++ t := by
  obtain ⟨g, gap, eq⟩ := exists_gap s
  refine ⟨g ++ [mark], ⟨g, gap, rfl⟩, ?_⟩
  rw [List.append_assoc, List.singleton_append, ← behindMark?_eq_some_iff.1 h]
  exact eq

theorem marked_of_behindMark? {mark : Char} {s t : List Char} (h : behindMark? mark s = some t) :
    ∃ m, Marked mark m ∧ s = m ++ (skipGap t).val := by
  obtain ⟨z, ⟨g, gap, rfl⟩, rfl⟩ := closing_of_behindMark? h
  obtain ⟨g', gap', eq⟩ := exists_gap t
  refine ⟨g ++ mark :: g', ⟨g, g', gap, gap', rfl⟩, ?_⟩
  rw [List.append_assoc, List.append_assoc, List.singleton_append, List.cons_append, ← eq]

/-! ## Words and numbers -/

theorem drop_val (c : Char) (rest : List Char) {count : Nat} (h : 0 < count) :
    (drop c rest count).val = (c :: rest).drop count := by
  obtain ⟨n, rfl⟩ := Nat.exists_eq_add_one_of_ne_zero (Nat.pos_iff_ne_zero.1 h)
  rfl

theorem word_length_pos {w : List Char × Json} (h : w ∈ words) : 0 < w.1.length := by
  have all : ∀ x ∈ words.map fun w => w.1.length, 0 < x := by decide
  exact all _ (List.mem_map_of_mem h)

theorem bare_readScalar (s : List Char) :
    bare (readScalar s) =
      match words.find? fun w => w.1.isPrefixOf s with
      | some (word, v) => .ok (v, s.drop word.length)
      | none =>
        match Numeral.scan s with
        | none => .error (.malformed .expectingValue s)
        | some n =>
          match n.value with
          | .error e => .error e
          | .ok v => .ok (v, s.drop n.length) := by
  obtain _ | ⟨c, rest⟩ := s
  · rfl
  rw [readScalar]
  cases found : words.find? fun w => w.1.isPrefixOf (c :: rest) with
  | some p =>
    obtain ⟨word, v⟩ := p
    simp only [bare_ok]
    rw [drop_val c rest (word_length_pos (List.mem_of_find?_eq_some found))]
  | none =>
    simp only
    cases Numeral.scan (c :: rest) with
    | none => rfl
    | some n =>
      simp only
      cases n.value with
      | error e => rfl
      | ok v =>
        have some_ : 0 < n.length := Nat.succ_pos _
        simp only [bare_ok, drop_val c rest some_]

/-- A word that is spelt is found, whatever follows it. -/
theorem find?_word {w : List Char} {v : Json} (h : (w, v) ∈ words) (r : List Char) :
    words.find? (fun w' => w'.1.isPrefixOf (w ++ r)) = some (w, v) := by
  simp only [words, List.mem_cons, Prod.mk.injEq, List.not_mem_nil, or_false] at h
  obtain ⟨rfl, rfl⟩ | ⟨rfl, rfl⟩ | ⟨rfl, rfl⟩ | ⟨rfl, rfl⟩ | ⟨rfl, rfl⟩ | ⟨rfl, rfl⟩ := h <;> rfl

/-- No word stands where a numeral does. -/
theorem find?_numeral {n : Numeral} {s : List Char} (h : n.Spells s) (r : List Char) :
    words.find? (fun w => w.1.isPrefixOf (s ++ r)) = none := by
  obtain ⟨regular, letter, -, rfl⟩ := h
  have digit : ∀ c : Char, c.isDigit = false → c ≠ n.first := by
    rintro c not rfl
    exact absurd regular.first (by simp [not])
  cases sign : n.negative <;>
    simp [Numeral.chars, sign, words, digit]

end LedgerGateway.Json
