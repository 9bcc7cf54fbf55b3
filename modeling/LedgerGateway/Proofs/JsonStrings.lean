import LedgerGateway.Proofs.JsonGrammar
import Mathlib.Data.Nat.Init

/-!
# Reading the strings of JSON

The reader of strings takes exactly what the grammar spells. A numbered escape looks ahead: the
first half of a surrogate pair takes the escape of a second half behind it along.

* `readBody_of_quoted` — a string that is spelt is read, whatever follows it.
* `quoted_of_readBody` — what is read spells a string.
* `not_isLimit_of_readBody` — a string that cannot be read is malformed; no limit applies to it.
-/

namespace LedgerGateway.Json

open Text.Unread

variable {α : Type} {s : List Char}

/-! ## What is read and what is left -/

/-- What was read and what is left, without the proof that this is shorter. -/
def bare {s : List Char} : Except Stop (α × After s) → Except Stop (α × List Char)
  | .error e => .error e
  | .ok (x, a) => .ok (x, a.val)

@[simp] theorem bare_error (e : Stop) :
    bare (.error e : Except Stop (α × After s)) = .error e := rfl

@[simp] theorem bare_ok (x : α) (a : After s) : bare (.ok (x, a)) = .ok (x, a.val) := rfl

theorem bare_eq_error_iff {x : Except Stop (α × After s)} {e : Stop} :
    bare x = .error e ↔ x = .error e := by
  cases x with
  | error e' => simp
  | ok p => simp [bare]

theorem length_lt_of_bare {x : Except Stop (α × After s)} {a : α} {r : List Char}
    (h : bare x = .ok (a, r)) : r.length < s.length := by
  cases x with
  | error e => exact absurd h (by simp)
  | ok p =>
    simp only [bare, Except.ok.injEq, Prod.mk.injEq] at h
    rw [← h.2]
    exact p.2.property

/-! ## Numbered escapes -/

theorem Quoted.ne_nil {t q : List Char} (h : Quoted t q) : q ≠ [] := by
  cases h <;> simp

/-- Behind four digits of an escape in a string, the string goes on. -/
theorem Quoted.unit_ne_nil {t rest : List Char} {a b c d : Char}
    (h : Quoted t ('\\' :: 'u' :: a :: b :: c :: d :: rest)) : rest ≠ [] := by
  cases h with
  | plain _ _ backslash => exact absurd rfl backslash
  | short escape => exact absurd escape (by simp [shortEscape?])
  | alone _ _ more => exact more.ne_nil
  | pair => simp

theorem readUnit_eq_some_iff {s : List Char} {u : Nat} {r : List Char} :
    (∃ a, readUnit s = some (u, a) ∧ a.val = r) ↔
      r ≠ [] ∧ ∃ a b c d, Hex.value? [a, b, c, d] = some u ∧ s = a :: b :: c :: d :: r := by
  constructor
  · rintro ⟨⟨r', short⟩, eq, rfl⟩
    unfold readUnit at eq
    split at eq
    · next a b c d e rest =>
      simp only [Option.map_eq_some_iff, Prod.mk.injEq] at eq
      obtain ⟨_, digits, rfl, eq⟩ := eq
      have left : e :: rest = r' := congrArg Subtype.val eq
      subst left
      exact ⟨by simp, a, b, c, d, digits, rfl⟩
    · exact absurd eq (by simp)
  · rintro ⟨more, a, b, c, d, digits, rfl⟩
    obtain ⟨e, rest, rfl⟩ := List.exists_cons_of_ne_nil more
    exact ⟨drop a (b :: c :: d :: e :: rest) 4, by simp [readUnit, digits], rfl⟩

/-- The second half of a pair, if its escape comes next and the text goes on behind it. -/
def lowAhead? : List Char → Option (Nat × List Char)
  | '\\' :: 'u' :: more =>
    match readUnit more with
    | some (low, a) => if isLowHalf low then some (low, a.val) else none
    | none => none
  | _ => none

theorem lowAhead?_eq_some_iff {s : List Char} {low : Nat} {r : List Char} :
    lowAhead? s = some (low, r) ↔ isLowHalf low = true ∧ r ≠ [] ∧
      ∃ a b c d, Hex.value? [a, b, c, d] = some low ∧ s = '\\' :: 'u' :: a :: b :: c :: d :: r := by
  constructor
  · intro h
    unfold lowAhead? at h
    split at h
    · next more =>
      split at h
      · next low' a eq =>
        split at h
        · next half =>
          simp only [Option.some.injEq, Prod.mk.injEq] at h
          obtain ⟨rfl, rfl⟩ := h
          obtain ⟨goesOn, a', b, c, d, digits, spelt⟩ := readUnit_eq_some_iff.1 ⟨a, eq, rfl⟩
          exact ⟨half, goesOn, a', b, c, d, digits, by rw [← spelt]⟩
        · exact absurd h (by simp)
      · exact absurd h (by simp)
    · exact absurd h (by simp)
  · rintro ⟨half, goesOn, a, b, c, d, digits, rfl⟩
    obtain ⟨rest, eq, left⟩ := readUnit_eq_some_iff.2 ⟨goesOn, a, b, c, d, digits, rfl⟩
    simp [lowAhead?, eq, half, left]

/-- A numbered escape is read as one unit, or as two that are the halves of a pair. -/
theorem readNumbered_eq (s : List Char) :
    (readNumbered s).map (fun p => (p.1, p.2.val)) =
      (readUnit s).map fun p =>
        match (if isHighHalf p.1 then lowAhead? p.2.val else none) with
        | some (low, r) => (Char.ofNat (joinHalves p.1 low), r)
        | none => (unitChar p.1, p.2.val) := by
  unfold readNumbered
  cases readUnit s with
  | none => rfl
  | some p =>
    obtain ⟨u, rest, shorter⟩ := p
    by_cases high : isHighHalf u = true
    · simp only [high, if_true, Option.map_some]
      split
      · next more _ =>
        cases second : readUnit more with
        | none => simp only [lowAhead?, second, Option.map_some]
        | some q =>
          obtain ⟨low, r⟩ := q
          by_cases half : isLowHalf low = true
          · simp only [lowAhead?, second, half, if_true, Option.map_some]
            rfl
          · simp only [lowAhead?, second, half, Bool.false_eq_true, if_false, Option.map_some]
      · next other =>
        have nothing : lowAhead? rest = none := by
          unfold lowAhead?
          split
          · next more => exact (other more shorter rfl HEq.rfl).elim
          · rfl
        simp only [nothing, Option.map_some]
    · simp only [high, Bool.false_eq_true, if_false, Option.map_some]

/-! ## The rest of a string -/

theorem bare_readBody_numbered (opening acc rest : List Char) :
    bare (readBody opening acc ('\\' :: 'u' :: rest)) =
      match (readNumbered rest).map (fun p => (p.1, p.2.val)) with
      | none => .error (.malformed .badUnicodeEscape ('u' :: rest))
      | some (c, r) => bare (readBody opening (c :: acc) r) := by
  rw [readBody]
  cases readNumbered rest with
  | none => rfl
  | some p =>
    obtain ⟨c, r, shorter⟩ := p
    simp only [Option.map_some]
    cases readBody opening (c :: acc) r with
    | error e => rfl
    | ok q => rfl

theorem bare_readBody_short (opening acc rest : List Char) {e : Char} (h : e ≠ 'u') :
    bare (readBody opening acc ('\\' :: e :: rest)) =
      match shortEscape? e with
      | none => .error (.malformed .badEscape ('\\' :: e :: rest))
      | some c => bare (readBody opening (c :: acc) rest) := by
  rw [readBody]
  · cases shortEscape? e with
    | none => rfl
    | some c =>
      simp only
      cases readBody opening (c :: acc) rest with
      | error e => rfl
      | ok q => rfl
  · exact h

theorem bare_readBody_plain (opening acc rest : List Char) {c : Char} (quote : c ≠ '"')
    (backslash : c ≠ '\\') :
    bare (readBody opening acc (c :: rest)) =
      if c.toNat < 0x20 then .error (.malformed .controlCharacter (c :: rest))
      else bare (readBody opening (c :: acc) rest) := by
  rw [readBody]
  · split
    · rfl
    · cases readBody opening (c :: acc) rest with
      | error e => rfl
      | ok q => rfl
  all_goals intros; simp_all

theorem bare_readNumbered_alone {s r : List Char} {u : Nat} {a b c d : Char}
    (digits : Hex.value? [a, b, c, d] = some u) (goesOn : r ≠ [])
    (spelt : s = a :: b :: c :: d :: r)
    (single : isHighHalf u = true → lowAhead? r = none) :
    (readNumbered s).map (fun p => (p.1, p.2.val)) = some (unitChar u, r) := by
  obtain ⟨rest, eq, left⟩ := readUnit_eq_some_iff.2 ⟨goesOn, a, b, c, d, digits, spelt⟩
  rw [readNumbered_eq, eq]
  by_cases high : isHighHalf u = true
  · simp [high, left, single high]
  · simp [high, left]

/-! ## Strings and their spelling -/

theorem Quoted.lowAhead?_eq_none_iff {t q : List Char} (h : Quoted t q) (r : List Char) :
    lowAhead? (q ++ r) = none ↔ ¬ LowNext q := by
  constructor
  · rintro nothing ⟨a, b, c, d, rest, low, rfl, digits, half⟩
    have goesOn : rest ++ r ≠ [] := by simp [h.unit_ne_nil]
    have found := lowAhead?_eq_some_iff.2 ⟨half, goesOn, a, b, c, d, digits, rfl⟩
    exact absurd (nothing.symm.trans found) (by simp)
  · intro alone
    cases found : lowAhead? (q ++ r) with
    | none => rfl
    | some p =>
      obtain ⟨half, -, a, b, c, d, digits, eq⟩ := lowAhead?_eq_some_iff.1 found
      refine absurd ?_ alone
      cases h with
      | done => exact absurd eq (by simp)
      | plain _ _ backslash => exact absurd (List.cons.inj eq).1 backslash
      | short escape =>
        simp only [List.cons_append, List.cons.injEq] at eq
        rw [eq.2.1] at escape
        exact absurd escape (by simp [shortEscape?])
      | alone =>
        simp only [List.cons_append, List.cons.injEq] at eq
        obtain ⟨-, -, rfl, rfl, rfl, rfl, -⟩ := eq
        exact ⟨_, _, _, _, _, _, rfl, digits, half⟩
      | pair =>
        simp only [List.cons_append, List.cons.injEq] at eq
        obtain ⟨-, -, rfl, rfl, rfl, rfl, -⟩ := eq
        exact ⟨_, _, _, _, _, _, rfl, digits, half⟩

/-- A string that is spelt is read, whatever follows it. -/
theorem readBody_of_quoted {t q : List Char} (h : Quoted t q) (opening acc r : List Char) :
    bare (readBody opening acc (q ++ r)) = .ok (acc.reverse ++ t, r) := by
  induction h generalizing acc with
  | done => simp [readBody, tail]
  | @plain c t s visible quote backslash _ ih =>
    rw [List.cons_append, bare_readBody_plain _ _ _ quote backslash, if_neg (by omega), ih]
    simp
  | @short e c t s escape _ ih =>
    have letter : e ≠ 'u' := by
      rintro rfl
      exact absurd escape (by simp [shortEscape?])
    rw [List.cons_append, List.cons_append, bare_readBody_short _ _ _ letter, escape]
    simp [ih]
  | @alone a b c d u t s digits single more ih =>
    have goesOn : s ++ r ≠ [] := by simp [more.ne_nil]
    have first := bare_readNumbered_alone digits goesOn rfl fun high =>
      (more.lowAhead?_eq_none_iff r).2 (single high)
    rw [List.cons_append, List.cons_append, bare_readBody_numbered]
    simp only [List.cons_append, first, ih]
    simp
  | @pair a b c d a' b' c' d' high low t s digits isHigh digits' isLow more ih =>
    have goesOn : s ++ r ≠ [] := by simp [more.ne_nil]
    have second := lowAhead?_eq_some_iff.2 ⟨isLow, goesOn, a', b', c', d', digits', rfl⟩
    obtain ⟨rest, eq, left⟩ := readUnit_eq_some_iff.2
      ⟨(by simp : '\\' :: 'u' :: a' :: b' :: c' :: d' :: (s ++ r) ≠ []), a, b, c, d, digits, rfl⟩
    -- The first half is read as a pair with the second, which is not left to the induction.
    have first := readNumbered_eq
      (a :: b :: c :: d :: '\\' :: 'u' :: a' :: b' :: c' :: d' :: (s ++ r))
    rw [eq] at first
    simp only [Option.map_some, isHigh, if_true, left, second] at first
    simp only [List.cons_append, bare_readBody_numbered, first, ih]
    simp

/-- A numbered escape that is read is that of one unit, or those of the two halves of a pair. -/
theorem readNumbered_cases {s r : List Char} {x : Char}
    (h : (readNumbered s).map (fun p => (p.1, p.2.val)) = some (x, r)) :
    ∃ a b c d u rest, Hex.value? [a, b, c, d] = some u ∧ s = a :: b :: c :: d :: rest ∧
      (x = unitChar u ∧ rest = r ∧ (isHighHalf u = true → lowAhead? r = none) ∨
       ∃ low, isHighHalf u = true ∧ lowAhead? rest = some (low, r) ∧
        x = Char.ofNat (joinHalves u low)) := by
  rw [readNumbered_eq] at h
  obtain ⟨⟨u, rest⟩, unit, h⟩ := Option.map_eq_some_iff.1 h
  obtain ⟨-, a, b, c, d, digits, spelt⟩ := readUnit_eq_some_iff.1 ⟨rest, unit, rfl⟩
  refine ⟨a, b, c, d, u, rest.val, digits, spelt, ?_⟩
  by_cases high : isHighHalf u = true
  · simp only [high, if_true] at h
    cases second : lowAhead? rest.val with
    | none =>
      simp only [second, Prod.mk.injEq] at h
      obtain ⟨rfl, rfl⟩ := h
      exact .inl ⟨rfl, rfl, fun _ => second⟩
    | some p =>
      simp only [second, Prod.mk.injEq] at h
      exact .inr ⟨p.1, high, by rw [← h.2], h.1.symm⟩
  · simp only [high, Bool.false_eq_true, if_false, Prod.mk.injEq] at h
    obtain ⟨rfl, rfl⟩ := h
    exact .inl ⟨rfl, rfl, fun half => absurd half high⟩

/-- What is read as a string spells it. -/
theorem quoted_of_readBody {opening acc s text r : List Char}
    (h : bare (readBody opening acc s) = .ok (text, r)) :
    ∃ t q, Quoted t q ∧ s = q ++ r ∧ text = acc.reverse ++ t := by
  induction len : s.length using Nat.strongRecOn generalizing acc s with
  | ind n ih =>
    subst len
    obtain _ | ⟨c, rest⟩ := s
    · exact absurd h (by simp [readBody])
    by_cases quote : c = '"'
    · subst quote
      simp only [readBody, bare_ok, tail, Except.ok.injEq, Prod.mk.injEq] at h
      obtain ⟨rfl, rfl⟩ := h
      exact ⟨[], ['"'], .done, rfl, by simp⟩
    by_cases backslash : c = '\\'
    · subst backslash
      obtain _ | ⟨e, rest⟩ := rest
      · exact absurd h (by simp [readBody])
      by_cases letter : e = 'u'
      · subst letter
        rw [bare_readBody_numbered] at h
        cases numbered : (readNumbered rest).map (fun p => (p.1, p.2.val)) with
        | none => exact absurd h (by simp [numbered])
        | some p =>
          obtain ⟨x, left⟩ := p
          simp only [numbered] at h
          obtain ⟨a, b, c, d, u, behind, digits, rfl, one | two⟩ := readNumbered_cases numbered
          · obtain ⟨rfl, rfl, single⟩ := one
            obtain ⟨t, q, more, rfl, rfl⟩ := ih _ (by simp only [List.length_cons]; omega) h rfl
            refine ⟨unitChar u :: t, _, .alone digits (fun high => ?_) more, rfl, by simp⟩
            exact (more.lowAhead?_eq_none_iff r).1 (single high)
          · obtain ⟨low, high, second, joined⟩ := two
            obtain ⟨half, -, a', b', c', d', digits', rfl⟩ := lowAhead?_eq_some_iff.1 second
            obtain ⟨t, q, more, rfl, rfl⟩ := ih _ (by simp only [List.length_cons]; omega) h rfl
            exact ⟨_, _, .pair digits high digits' half more, rfl, by simp [joined]⟩
      · rw [bare_readBody_short _ _ _ letter] at h
        cases escape : shortEscape? e with
        | none => exact absurd h (by simp [escape])
        | some c =>
          simp only [escape] at h
          obtain ⟨t, q, more, rfl, rfl⟩ := ih _ (by simp only [List.length_cons]; omega) h rfl
          exact ⟨c :: t, _, .short escape more, rfl, by simp⟩
    · rw [bare_readBody_plain _ _ _ quote backslash] at h
      split at h
      · exact absurd h (by simp)
      · next visible =>
        obtain ⟨t, q, more, rfl, rfl⟩ := ih _ (by simp) h rfl
        exact ⟨c :: t, _, .plain (by omega) quote backslash more, rfl, by simp⟩

/-- A string that cannot be read is malformed. -/
theorem not_isLimit_of_readBody {opening acc s : List Char} {e : Stop}
    (h : bare (readBody opening acc s) = .error e) : ¬ e.IsLimit := by
  replace h := bare_eq_error_iff.1 h
  fun_induction readBody opening acc s with
  | case1 | case3 | case4 | case7 | case10 =>
    rw [← Except.error.inj h]
    exact id
  | case2 | case6 | case9 | case12 => exact absurd h (by simp)
  | case5 _ _ _ _ _ _ e' eq ih => exact ih (by rw [eq, Except.error.inj h])
  | case8 _ _ _ _ _ _ e' eq ih => exact ih (by rw [eq, Except.error.inj h])
  | case11 _ _ _ _ _ _ _ _ e' eq ih => exact ih (by rw [eq, Except.error.inj h])

end LedgerGateway.Json
