import LedgerGateway.Proofs.JsonSteps

/-!
# The JSON reader takes only what is spelt

What the reader returns is spelt by the text in front of what it leaves, and where it stops because
of a limit, that limit is passed. Values lie inside arrays and objects and arrays and objects inside
values, so the three functions are proved sound together, by induction on the length of the text;
before that each of them has one lemma for its own step.

* `valueSound_step`, `itemsSound_step`, `membersSound_step` — one step of each function.
* `sound` — the reader is sound at every point of a text.
-/

namespace LedgerGateway.Json

open Text.Unread
open Decimal (digitLimit)

theorem Point.Overruns.of_excessive {p : Point} (h : p.Excessive) : p.Overruns :=
  ⟨p, .refl, h⟩

theorem Point.Overruns.of_descends {p q : Point} (h : Descends p q) (overrun : q.Overruns) :
    p.Overruns := by
  obtain ⟨r, path, excessive⟩ := overrun
  exact ⟨r, path.head h, excessive⟩

/-! ## What is read is spelt -/

/-- A value that is read is spelt, and a limit that stops the reader is passed. -/
structure ValueSound (depth : Nat) (s : List Char) : Prop where
  spelt : ∀ {v r}, bare (readValue depth s) = .ok (v, r) →
    ∃ p, Spelt words digitLimit depth (.value v) p ∧ s = p ++ r
  overruns : ∀ {e}, bare (readValue depth s) = .error e → e.IsLimit →
    Point.Overruns ⟨.value, depth, s⟩

/-- The same for the items of an array. -/
structure ItemsSound (depth : Nat) (s : List Char) : Prop where
  spelt : ∀ {acc items r}, bare (readItems depth acc s) = .ok (items, r) →
    ∃ vs p, items = acc.reverse ++ vs ∧ Spelt words digitLimit depth (.items vs) p ∧ s = p ++ r
  overruns : ∀ {acc e}, bare (readItems depth acc s) = .error e → e.IsLimit →
    Point.Overruns ⟨.items, depth, s⟩

/-- The same for the members of an object. -/
structure MembersSound (depth : Nat) (s : List Char) : Prop where
  spelt : ∀ {acc members r}, bare (readMembers depth acc s) = .ok (members, r) →
    ∃ ms p, members = acc.reverse ++ ms ∧ Spelt words digitLimit depth (.members ms) p ∧ s = p ++ r
  overruns : ∀ {acc e}, bare (readMembers depth acc s) = .error e → e.IsLimit →
    Point.Overruns ⟨.members, depth, s⟩

theorem valueSound_scalar (depth : Nat) {s : List Char}
    (h : ∀ c, s.head? = some c → c ≠ '"' ∧ c ≠ '[' ∧ c ≠ '{') : ValueSound depth s := by
  have read := bare_readScalar s
  rw [← readValue_scalar depth h] at read
  constructor
  · intro v r ok
    rw [read] at ok
    split at ok
    · next word v' found =>
      simp only [Except.ok.injEq, Prod.mk.injEq] at ok
      obtain ⟨rfl, rfl⟩ := ok
      have front := List.find?_some found
      refine ⟨word, .word (List.mem_of_find?_eq_some found), ?_⟩
      exact (List.prefix_iff_eq_append.1 (List.isPrefixOf_iff_prefix.1 front)).symm
    · split at ok
      · exact absurd ok (by simp)
      · next n scanned =>
        obtain ⟨value, few⟩ | ⟨value, -⟩ := n.value_cases
        · simp only [value, Except.ok.injEq, Prod.mk.injEq] at ok
          obtain ⟨rfl, rfl⟩ := ok
          obtain ⟨p, spells, eq⟩ := Numeral.spells_of_scan scanned
          exact ⟨p, .number spells few, eq.symm⟩
        · exact absurd ok (by simp [value])
  · intro e error limit
    rw [read] at error
    split at error
    · exact absurd error (by simp)
    · split at error
      · rw [← Except.error.inj error] at limit
        exact limit.elim
      · -- A number stops the reader at a limit only if it has too many digits.
        next n scanned =>
        obtain ⟨value, -⟩ | ⟨-, integer, many⟩ := n.value_cases
        · exact absurd error (by simp [value])
        · exact .of_excessive (.number (Numeral.scan_eq_some_iff.1 scanned) integer many)

theorem valueSound_string (depth : Nat) (rest : List Char) : ValueSound depth ('"' :: rest) := by
  constructor
  · intro v r h
    rw [bare_readValue_string] at h
    split at h
    · exact absurd h (by simp)
    · next t r' body =>
      simp only [Except.ok.injEq, Prod.mk.injEq] at h
      obtain ⟨rfl, rfl⟩ := h
      obtain ⟨t', q, quoted, rfl, rfl⟩ := quoted_of_readBody body
      exact ⟨'"' :: q, .string quoted, rfl⟩
  · intro e h limit
    rw [bare_readValue_string] at h
    split at h
    · next e' body =>
      rw [← Except.error.inj h] at limit
      exact absurd limit (not_isLimit_of_readBody body)
    · exact absurd h (by simp)

theorem valueSound_array_zero (rest : List Char) : ValueSound 0 ('[' :: rest) := by
  constructor
  · intro v r h
    exact absurd h (by simp [readValue_array_zero])
  · intro e _ _
    exact .of_excessive .array

theorem valueSound_array {depth : Nat} {rest : List Char}
    (inner : ItemsSound depth (skipGap rest).val) : ValueSound (depth + 1) ('[' :: rest) := by
  obtain ⟨g, gap, eq⟩ := exists_gap rest
  constructor
  · intro v r h
    rw [bare_readValue_array] at h
    split at h
    · next r' found =>
      simp only [Except.ok.injEq, Prod.mk.injEq] at h
      obtain ⟨rfl, rfl⟩ := h
      obtain ⟨z, closing, rfl⟩ := closing_of_behindMark? found
      exact ⟨'[' :: z, .emptyArray closing, rfl⟩
    · split at h
      · exact absurd h (by simp)
      · next items r' read =>
        simp only [Except.ok.injEq, Prod.mk.injEq] at h
        obtain ⟨rfl, rfl⟩ := h
        obtain ⟨vs, p, rfl, spelt, eq'⟩ := inner.spelt read
        refine ⟨'[' :: (g ++ p), .array gap spelt, ?_⟩
        rw [List.cons_append, List.append_assoc, ← eq', ← eq]
  · intro e h limit
    rw [bare_readValue_array] at h
    split at h
    · exact absurd h (by simp)
    · split at h
      · next e' read =>
        rw [← Except.error.inj h] at limit
        rw [eq]
        exact .of_descends (.array gap) (inner.overruns read limit)
      · exact absurd h (by simp)

theorem valueSound_object_zero (rest : List Char) : ValueSound 0 ('{' :: rest) := by
  constructor
  · intro v r h
    exact absurd h (by simp [readValue_object_zero])
  · intro e _ _
    exact .of_excessive .object

theorem valueSound_object {depth : Nat} {rest : List Char}
    (inner : MembersSound depth (skipGap rest).val) : ValueSound (depth + 1) ('{' :: rest) := by
  obtain ⟨g, gap, eq⟩ := exists_gap rest
  constructor
  · intro v r h
    rw [bare_readValue_object] at h
    split at h
    · next r' found =>
      simp only [Except.ok.injEq, Prod.mk.injEq] at h
      obtain ⟨rfl, rfl⟩ := h
      obtain ⟨z, closing, rfl⟩ := closing_of_behindMark? found
      exact ⟨'{' :: z, .emptyObject closing, rfl⟩
    · split at h
      · exact absurd h (by simp)
      · next members r' read =>
        simp only [Except.ok.injEq, Prod.mk.injEq] at h
        obtain ⟨rfl, rfl⟩ := h
        obtain ⟨ms, p, rfl, spelt, eq'⟩ := inner.spelt read
        refine ⟨'{' :: (g ++ p), .object gap spelt, ?_⟩
        rw [List.cons_append, List.append_assoc, ← eq', ← eq]
  · intro e h limit
    rw [bare_readValue_object] at h
    split at h
    · exact absurd h (by simp)
    · split at h
      · next e' read =>
        rw [← Except.error.inj h] at limit
        rw [eq]
        exact .of_descends (.object gap) (inner.overruns read limit)
      · exact absurd h (by simp)

theorem itemsSound_step {depth : Nat} {s : List Char} (value : ValueSound depth s)
    (shorter : ∀ t : List Char, t.length < s.length → ItemsSound depth t) :
    ItemsSound depth s := by
  -- Behind a value and a comma the text is shorter.
  have further {r t : List Char} {v : Json} (read : bare (readValue depth s) = .ok (v, r))
      (found : behindMark? ',' r = some t) : ItemsSound depth (skipGap t).val := by
    obtain ⟨m, -, eq⟩ := marked_of_behindMark? found
    have small := length_lt_of_bare read
    have len := congrArg List.length eq
    rw [List.length_append] at len
    exact shorter _ (by omega)
  constructor
  · intro acc items r h
    rw [bare_readItems] at h
    split at h
    · exact absurd h (by simp)
    · next v r' read =>
      obtain ⟨p, spelt, rfl⟩ := value.spelt read
      split at h
      · next t closed =>
        simp only [Except.ok.injEq, Prod.mk.injEq] at h
        obtain ⟨rfl, rfl⟩ := h
        obtain ⟨z, closing, rfl⟩ := closing_of_behindMark? closed
        exact ⟨[v], p ++ z, by simp, .lastItem spelt closing, by simp⟩
      · split at h
        · next t found =>
          obtain ⟨vs, q, rfl, spelt', eq⟩ := (further read found).spelt h
          obtain ⟨m, marked, eq'⟩ := marked_of_behindMark? found
          refine ⟨v :: vs, p ++ (m ++ q), by simp, .item spelt marked spelt', ?_⟩
          rw [List.append_assoc, List.append_assoc, ← eq, ← eq']
        · exact absurd h (by simp)
  · intro acc e h limit
    rw [bare_readItems] at h
    split at h
    · next e' read =>
      rw [← Except.error.inj h] at limit
      exact .of_descends .item (value.overruns read limit)
    · next v r' read =>
      split at h
      · exact absurd h (by simp)
      · split at h
        · next t found =>
          have overrun := (further read found).overruns h limit
          obtain ⟨p, spelt, rfl⟩ := value.spelt read
          obtain ⟨m, marked, eq⟩ := marked_of_behindMark? found
          rw [eq]
          exact .of_descends (.pastItem spelt marked) overrun
        · rw [← Except.error.inj h] at limit
          exact limit.elim

/-- The name of a member and the colon behind it, when they are read. -/
theorem label_of_read {opening rest name r t : List Char}
    (body : bare (readBody opening [] rest) = .ok (name, r))
    (colon : behindMark? ':' r = some t) :
    ∃ l, Label (String.ofList name) l ∧ '"' :: rest = l ++ (skipGap t).val := by
  obtain ⟨t', q, quoted, rfl, rfl⟩ := quoted_of_readBody body
  obtain ⟨m, marked, eq⟩ := marked_of_behindMark? colon
  refine ⟨'"' :: (q ++ m), .mk quoted marked, ?_⟩
  rw [List.cons_append, List.append_assoc, ← eq]

theorem Label.ne_nil {name : String} {l : List Char} (h : Label name l) : l ≠ [] := by
  cases h
  simp

/-- A member begins with a name, or the text is malformed. -/
theorem readMembers_cases (depth : Nat) (s : List Char) :
    (∃ e : Stop, ¬ e.IsLimit ∧ ∀ acc, bare (readMembers depth acc s) = .error e) ∨
      ∃ name l t, Label name l ∧ s = l ++ t ∧ ∀ acc, bare (readMembers depth acc s) =
        match bare (readValue depth t) with
        | .error e => .error e
        | .ok (v, r) => bare (readMore depth ((name, v) :: acc) r) := by
  by_cases quote : s.head? = some '"'
  · obtain ⟨rest, rfl⟩ := List.head?_eq_some_iff.1 quote
    cases body : bare (readBody ('"' :: rest) [] rest) with
    | error e =>
      refine .inl ⟨e, not_isLimit_of_readBody body, fun acc => ?_⟩
      rw [bare_readMembers, body]
    | ok p =>
      obtain ⟨name, r⟩ := p
      cases colon : behindMark? ':' r with
      | none =>
        refine .inl ⟨.malformed .expectingColon (skipGap r).val, id, fun acc => ?_⟩
        rw [bare_readMembers, body]
        simp only [colon]
      | some t =>
        obtain ⟨l, label, eq⟩ := label_of_read body colon
        exact .inr ⟨_, l, _, label, eq, fun acc => bare_readMembers_of_name depth acc body colon⟩
  · refine .inl ⟨.malformed .expectingName s, id, fun acc => ?_⟩
    rw [readMembers_of_not_quote depth acc quote, bare_error]

theorem membersSound_step {depth : Nat} {s : List Char}
    (value : ∀ t : List Char, t.length < s.length → ValueSound depth t)
    (shorter : ∀ t : List Char, t.length < s.length → MembersSound depth t) :
    MembersSound depth s := by
  obtain ⟨e, notLimit, read⟩ | ⟨name, l, t, label, rfl, read⟩ := readMembers_cases depth s
  · constructor
    · intro acc members r h
      exact absurd h (by simp [read])
    · intro acc e' h limit
      rw [read] at h
      rw [← Except.error.inj h] at limit
      exact absurd limit notLimit
  -- The name in front of the value makes its text shorter, and so does the comma behind it.
  have small : t.length < (l ++ t).length := by
    have := List.length_pos_iff.2 label.ne_nil
    rw [List.length_append]
    omega
  have further {r t' : List Char} {v : Json} (inner : bare (readValue depth t) = .ok (v, r))
      (found : behindMark? ',' r = some t') : MembersSound depth (skipGap t').val := by
    obtain ⟨m, -, eq⟩ := marked_of_behindMark? found
    have len := congrArg List.length eq
    have := length_lt_of_bare inner
    rw [List.length_append] at len
    exact shorter _ (by omega)
  constructor
  · intro acc members r h
    rw [read] at h
    split at h
    · exact absurd h (by simp)
    · next v r' inner =>
      obtain ⟨p, spelt, rfl⟩ := (value t small).spelt inner
      rw [bare_readMore] at h
      split at h
      · next t' closed =>
        simp only [Except.ok.injEq, Prod.mk.injEq] at h
        obtain ⟨rfl, rfl⟩ := h
        obtain ⟨z, closing, rfl⟩ := closing_of_behindMark? closed
        exact ⟨[(name, v)], l ++ (p ++ z), by simp, .lastMember label spelt closing, by simp⟩
      · split at h
        · next t' found =>
          obtain ⟨ms, q, rfl, spelt', eq⟩ := (further inner found).spelt h
          obtain ⟨m, marked, eq'⟩ := marked_of_behindMark? found
          refine ⟨(name, v) :: ms, l ++ (p ++ (m ++ q)), by simp,
            .member label spelt marked spelt', ?_⟩
          simp only [List.append_assoc]
          rw [← eq, ← eq']
        · exact absurd h (by simp)
  · intro acc e h limit
    rw [read] at h
    split at h
    · next e' inner =>
      rw [← Except.error.inj h] at limit
      exact .of_descends (.member label) ((value t small).overruns inner limit)
    · next v r' inner =>
      rw [bare_readMore] at h
      split at h
      · exact absurd h (by simp)
      · split at h
        · next t' found =>
          have overrun := (further inner found).overruns h limit
          obtain ⟨p, spelt, rfl⟩ := (value t small).spelt inner
          obtain ⟨m, marked, eq⟩ := marked_of_behindMark? found
          rw [eq]
          exact .of_descends (.pastMember label spelt marked) overrun
        · rw [← Except.error.inj h] at limit
          exact limit.elim

theorem valueSound_step {depth : Nat} {s : List Char}
    (items : ∀ depth (t : List Char), t.length < s.length → ItemsSound depth t)
    (members : ∀ depth (t : List Char), t.length < s.length → MembersSound depth t) :
    ValueSound depth s := by
  obtain _ | ⟨c, rest⟩ := s
  · exact valueSound_scalar depth (fun c h => absurd h (by simp))
  have behind : (skipGap rest).val.length < (c :: rest).length :=
    Nat.lt_succ_of_le (skipGap rest).property
  by_cases quote : c = '"'
  · subst quote
    exact valueSound_string depth rest
  by_cases bracket : c = '['
  · subst bracket
    cases depth with
    | zero => exact valueSound_array_zero rest
    | succ depth => exact valueSound_array (items depth _ behind)
  by_cases brace : c = '{'
  · subst brace
    cases depth with
    | zero => exact valueSound_object_zero rest
    | succ depth => exact valueSound_object (members depth _ behind)
  refine valueSound_scalar depth fun c' h => ?_
  obtain rfl : c = c' := Option.some.inj h
  exact ⟨quote, bracket, brace⟩

/-- The reader is sound at every point of a text. -/
theorem sound (s : List Char) :
    (∀ depth, ValueSound depth s) ∧ (∀ depth, ItemsSound depth s) ∧
      ∀ depth, MembersSound depth s := by
  induction len : s.length using Nat.strongRecOn generalizing s with
  | ind n ih =>
    subst len
    -- The items of an array begin with a value in the same text, so the value comes first.
    have value (depth : Nat) : ValueSound depth s :=
      valueSound_step (fun d t h => (ih _ h t rfl).2.1 d) (fun d t h => (ih _ h t rfl).2.2 d)
    refine ⟨value, fun depth => ?_, fun depth => ?_⟩
    · exact itemsSound_step (value depth) fun t h => (ih _ h t rfl).2.1 depth
    · exact membersSound_step (fun t h => (ih _ h t rfl).1 depth)
        fun t h => (ih _ h t rfl).2.2 depth

end LedgerGateway.Json
