import LedgerGateway.Proofs.JsonRoundTrip
import LedgerGateway.Proofs.JsonTexts
import LedgerGateway.Proofs.WrittenText

/-!
# What no strict text holds

Outside of strings the capital letters `N` and `I` stand in the words for numbers that are not
finite and nowhere else. A count of them, kept over whole spellings, tells the texts that a strict
reader refuses: they are those of the values that hold such a number.

* `Strays` — a part of a text that leaves off outside of strings, and the count in it.
* `Spelt.strays` — the strict grammar has none.
* `telling_write` — a written value without any has finite numbers.
* `strictText_write_iff` — which values are written as strict texts.
-/

namespace LedgerGateway.Json

open Decimal (Binary64)

/-- Where a character stands: outside of strings, in a string, or behind its backslash. -/
inductive Spot where
  | outside
  | inside
  | escaped
  deriving DecidableEq, Repr

/-- How many of the letters `N` and `I` stand outside of strings. -/
def strays : Spot → List Char → Nat
  | _, [] => 0
  | .outside, c :: s =>
    if c = '"' then strays .inside s
    else (if c = 'N' ∨ c = 'I' then 1 else 0) + strays .outside s
  | .inside, c :: s =>
    if c = '"' then strays .outside s
    else if c = '\\' then strays .escaped s
    else strays .inside s
  | .escaped, _ :: s => strays .inside s

/-- A part of a text that begins and ends outside of strings and has so many strays. -/
def Strays (n : Nat) (s : List Char) : Prop :=
  ∀ r, strays .outside (s ++ r) = n + strays .outside r

/-! ## Parts of texts -/

theorem Strays.append {n m : Nat} {s t : List Char} (h : Strays n s) (h' : Strays m t) :
    Strays (n + m) (s ++ t) := by
  intro r
  rw [List.append_assoc, h, h', Nat.add_assoc]

theorem Strays.unique {n m : Nat} {s : List Char} (h : Strays n s) (h' : Strays m s) : n = m :=
  Nat.add_right_cancel ((h []).symm.trans (h' []))

theorem Strays.cons {n : Nat} {s : List Char} (h : Strays n s) {c : Char}
    (quiet : c ∉ ['"', 'N', 'I']) : Strays n (c :: s) := by
  simp only [List.mem_cons, List.not_mem_nil, or_false, not_or] at quiet
  obtain ⟨quote, n', i⟩ := quiet
  intro r
  rw [List.cons_append, strays, if_neg quote, if_neg (by simp [n', i]), Nat.zero_add]
  exact h r

theorem Strays.stray {n : Nat} {s : List Char} (h : Strays n s) {c : Char}
    (loud : c = 'N' ∨ c = 'I') : Strays (1 + n) (c :: s) := by
  have quote : c ≠ '"' := by
    obtain rfl | rfl := loud <;> decide
  intro r
  rw [List.cons_append, strays, if_neg quote, if_pos loud, h, Nat.add_assoc]

theorem strays_nil : Strays 0 [] := fun _ => (Nat.zero_add _).symm

theorem strays_quiet {s : List Char} (h : '"' ∉ s ∧ 'N' ∉ s ∧ 'I' ∉ s) : Strays 0 s := by
  induction s with
  | nil => exact strays_nil
  | cons c s ih =>
    simp only [List.mem_cons, not_or] at h
    obtain ⟨quote, n, i⟩ := h
    refine (ih ⟨quote.2, n.2, i.2⟩).cons ?_
    simp [Ne.symm quote.1, Ne.symm n.1, Ne.symm i.1]

theorem Gap.strays {g : List Char} (h : Gap g) : Strays 0 g :=
  strays_quiet ⟨h.not_mem rfl, h.not_mem rfl, h.not_mem rfl⟩

theorem Marked.strays {mark : Char} {m : List Char} (h : Marked mark m)
    (quiet : mark ∉ ['"', 'N', 'I']) : Strays 0 m := by
  obtain ⟨g, g', gap, gap', rfl⟩ := h
  exact gap.strays.append (gap'.strays.cons quiet)

theorem Closing.strays {mark : Char} {z : List Char} (h : Closing mark z)
    (quiet : mark ∉ ['"', 'N', 'I']) : Strays 0 z := by
  obtain ⟨g, gap, rfl⟩ := h
  exact gap.strays.append (strays_nil.cons quiet)

theorem Numeral.Spells.strays {n : Numeral} {s : List Char} (h : n.Spells s) : Strays 0 s :=
  strays_quiet
    ⟨h.not_mem rfl (by decide), h.not_mem rfl (by decide), h.not_mem rfl (by decide)⟩

/-- A hexadecimal digit does not end a string, and it escapes nothing. -/
theorem strays_digits {a b c d : Char} {u : Nat} (h : Hex.value? [a, b, c, d] = some u)
    (s : List Char) :
    strays .inside ('\\' :: 'u' :: a :: b :: c :: d :: s) = strays .inside s := by
  have quote := @digits_not_mem '"' _ _ _ _ _ rfl h
  have backslash := @digits_not_mem '\\' _ _ _ _ _ rfl h
  simp only [List.mem_cons, List.not_mem_nil, or_false, not_or] at quote backslash
  obtain ⟨qa, qb, qc, qd⟩ := quote
  obtain ⟨ba, bb, bc, bd⟩ := backslash
  simp [strays, Ne.symm qa, Ne.symm qb, Ne.symm qc, Ne.symm qd, Ne.symm ba, Ne.symm bb, Ne.symm bc,
    Ne.symm bd]

/-- A string is passed over whole. -/
theorem Quoted.strays {t q : List Char} (h : Quoted t q) : Strays 0 ('"' :: q) := by
  intro r
  show Json.strays .inside (q ++ r) = 0 + Json.strays .outside r
  rw [Nat.zero_add]
  -- Every character of the string is passed inside of it; only its closing quote leads out.
  induction h with
  | done => rfl
  | plain _ quote backslash _ ih => simpa [Json.strays, quote, backslash] using ih
  | short _ _ ih => simpa [Json.strays] using ih
  | alone digits _ _ ih => rwa [← strays_digits digits] at ih
  | pair digits _ digits' _ _ ih =>
    rwa [← strays_digits digits', ← strays_digits digits] at ih

theorem Label.strays {name : String} {l : List Char} (h : Label name l) : Strays 0 l := by
  obtain ⟨quoted, marked⟩ := h
  exact quoted.strays.append (marked.strays (by decide))

/-! ## The strict grammar -/

/-- No word, number or mark of the strict grammar has a stray. -/
theorem Spelt.strays {digits depth : Nat} {node : Node} {s : List Char}
    (h : Spelt strictWords digits depth node s) : Strays 0 s := by
  have word : ∀ w ∈ strictWords, '"' ∉ w.1 ∧ 'N' ∉ w.1 ∧ 'I' ∉ w.1 := by decide
  induction h with
  | word mem => exact strays_quiet (word _ mem)
  | number spells => exact spells.strays
  | string quoted => exact quoted.strays
  | emptyArray closing | emptyObject closing => exact (closing.strays (by decide)).cons (by decide)
  | array gap _ ih | object gap _ ih => exact (gap.strays.append ih).cons (by decide)
  | lastItem _ closing ih => exact ih.append (closing.strays (by decide))
  | item _ marked _ ih ih' => exact ih.append ((marked.strays (by decide)).append ih')
  | lastMember label _ closing ih =>
    exact label.strays.append (ih.append (closing.strays (by decide)))
  | member label _ marked _ ih ih' =>
    exact label.strays.append (ih.append ((marked.strays (by decide)).append ih'))

theorem StrictText.strays {s : List Char} (h : StrictText s) : Strays 0 s := by
  obtain ⟨digits, depth, v, g, s, g', gap, spelt, gap', rfl⟩ := h
  exact gap.strays.append (spelt.strays.append gap'.strays)

/-! ## Written values -/

variable {style : Style}

theorem strays_numeric {s : List Char} (h : Decimal.Numeric s) : Strays 0 s :=
  strays_quiet ⟨fun mem => absurd (h '"' mem) (by decide),
    fun mem => absurd (h 'N' mem) (by decide), fun mem => absurd (h 'I' mem) (by decide)⟩

/-- Every word for a number that is not finite has a stray. -/
theorem exists_strays_float (x : Binary64) :
    ∃ n, Strays n (writeFloat x) ∧ (n = 0 → x.IsFinite) := by
  cases x with
  | nan =>
    show ∃ n, Strays n ['N', 'a', 'N'] ∧ _
    exact ⟨_, (((strays_nil.stray (.inl rfl)).cons (by decide)).stray (.inl rfl)),
      fun none_ => absurd none_ (by decide)⟩
  | infinite negative =>
    have word : Strays 1 "Infinity".toList := (strays_quiet (by decide)).stray (.inr rfl)
    cases negative with
    | false => exact ⟨1, word, fun none_ => absurd none_ (by decide)⟩
    | true => exact ⟨1, word.cons (by decide), fun none_ => absurd none_ (by decide)⟩
  | finite negative mantissa exponent =>
    exact ⟨0, strays_numeric (Decimal.numeric_toChars _ _ _), fun _ => trivial⟩

theorem strays_writeString (ascii : Bool) (t : String) : Strays 0 (writeString ascii t) := by
  obtain ⟨q, quoted, eq⟩ := Quoted.writeString ascii t
  rw [eq]
  exact quoted.strays

/-- The text has strays unless the value has finite numbers. -/
def Telling (v : Json) (s : List Char) : Prop := ∃ n, Strays n s ∧ (n = 0 → v.AllFinite)

theorem Telling.of_strays {v : Json} {s : List Char} (h : Strays 0 s) (finite : v.AllFinite) :
    Telling v s :=
  ⟨0, h, fun _ => finite⟩

theorem telling_items (regular : style.Regular) {rest : List Json}
    (h : ∀ v ∈ rest, Telling v (writeChars style v)) :
    ∃ n, Strays n (writeItems style rest) ∧ (n = 0 → ∀ v ∈ rest, v.AllFinite) := by
  induction rest with
  | nil => exact ⟨0, strays_nil, fun _ v mem => absurd mem (by simp)⟩
  | cons v rest ih =>
    obtain ⟨n, first, finite⟩ := h v (by simp)
    obtain ⟨m, others, finites⟩ := ih fun w mem => h w (List.mem_cons_of_mem _ mem)
    have comma := regular.comma.strays (by decide)
    refine ⟨0 + n + m, (comma.append first).append others, fun none_ => ?_⟩
    rw [List.forall_mem_cons]
    exact ⟨finite (by omega), finites (by omega)⟩

theorem telling_members (regular : style.Regular) {rest : List (String × Json)}
    (h : ∀ m ∈ rest, Telling m.2 (writeChars style m.2)) :
    ∃ n, Strays n (writeMembers style rest) ∧ (n = 0 → ∀ m ∈ rest, m.2.AllFinite) := by
  induction rest with
  | nil => exact ⟨0, strays_nil, fun _ m mem => absurd mem (by simp)⟩
  | cons m rest ih =>
    obtain ⟨name, v⟩ := m
    obtain ⟨n, first, finite⟩ := h (name, v) (by simp)
    obtain ⟨k, others, finites⟩ := ih fun w mem => h w (List.mem_cons_of_mem _ mem)
    have comma := regular.comma.strays (by decide)
    have label := (strays_writeString style.ascii name).append (regular.colon.strays (by decide))
    refine ⟨0 + (0 + 0) + n + k, ?_, fun none_ => ?_⟩
    · have whole := ((comma.append label).append first).append others
      simpa only [writeMembers, List.append_assoc] using whole
    · rw [List.forall_mem_cons]
      exact ⟨finite (by omega), finites (by omega)⟩

/-- What is true of all numbers and of all names holds of every value. -/
theorem Holds.all {float : Binary64 → Prop} {names : List String → Prop} (hf : ∀ x, float x)
    (hn : ∀ ks, names ks) : ∀ v : Json, Holds float names v
  | .null => .null
  | .bool _ => .bool
  | .int _ => .int
  | .float x => .float (hf x)
  | .string _ => .string
  | .array vs => .array fun v _ => Holds.all hf hn v
  | .object ms => .object (hn _) fun m _ => Holds.all hf hn m.2
termination_by v => sizeOf v
decreasing_by
  · have := List.sizeOf_lt_of_mem ‹_ ∈ vs›
    simp
    omega
  · have := List.sizeOf_lt_of_mem ‹_ ∈ ms›
    obtain ⟨name, w⟩ := m
    simp at this ⊢
    omega

theorem telling_write (regular : style.Regular) (v : Json) : Telling v (writeChars style v) := by
  -- Counts only add up, so a text without strays is one whose parts have none.
  have h : Holds (fun _ => True) (fun _ => True) v := .all (fun _ => trivial) (fun _ => trivial) v
  induction h with
  | null =>
    show Telling _ "null".toList
    exact .of_strays (strays_quiet (by decide)) .null
  | @bool b =>
    cases b with
    | false =>
      show Telling _ "false".toList
      exact .of_strays (strays_quiet (by decide)) .bool
    | true =>
      show Telling _ "true".toList
      exact .of_strays (strays_quiet (by decide)) .bool
  | int => exact .of_strays (strays_numeric (Decimal.numeric_intText _)) .int
  | @float x _ =>
    obtain ⟨n, counted, finite⟩ := exists_strays_float x
    exact ⟨n, counted, fun none_ => .float (finite none_)⟩
  | string => exact .of_strays (strays_writeString _ _) .string
  | @array vs _ ih =>
    cases vs with
    | nil =>
      show Telling _ ['[', ']']
      exact .of_strays (strays_quiet (by decide)) (.array fun v mem => absurd mem (by simp))
    | cons v rest =>
      obtain ⟨n, first, finite⟩ := ih v (by simp)
      obtain ⟨m, others, finites⟩ :=
        telling_items regular fun w mem => ih w (List.mem_cons_of_mem _ mem)
      have closed := strays_nil.cons (c := ']') (by decide)
      refine ⟨n + m + 0, ?_, fun none_ => .array ?_⟩
      · exact ((first.append others).append closed).cons (by decide)
      · rw [List.forall_mem_cons]
        exact ⟨finite (by omega), finites (by omega)⟩
  | @object ms _ _ ih =>
    cases ms with
    | nil =>
      show Telling _ ['\x7b', '\x7d']
      exact .of_strays (strays_quiet (by decide))
        (.object trivial fun m mem => absurd mem (by simp))
    | cons m rest =>
      obtain ⟨name, v⟩ := m
      obtain ⟨n, first, finite⟩ := ih (name, v) (by simp)
      obtain ⟨k, others, finites⟩ :=
        telling_members regular fun w mem => ih w (List.mem_cons_of_mem _ mem)
      have label := (strays_writeString style.ascii name).append (regular.colon.strays (by decide))
      have closed := strays_nil.cons (c := '}') (by decide)
      refine ⟨0 + 0 + n + k + 0, ?_, fun none_ => .object trivial ?_⟩
      · exact (((label.append first).append others).append closed).cons (by decide)
      · rw [List.forall_mem_cons]
        exact ⟨finite (by omega), finites (by omega)⟩

/-- The values that are written as strict texts are those with finite numbers. -/
theorem strictText_write_iff (regular : style.Regular) {v : Json} (canonical : v.Canonical) :
    StrictText (writeChars style v) ↔ v.AllFinite := by
  constructor
  · intro strict
    obtain ⟨n, counted, finite⟩ := telling_write regular v
    exact finite (counted.unique strict.strays)
  · intro finite
    obtain ⟨digits, depth, whole⟩ :=
      (wholeText_write_iff regular (finite.writable canonical)).2 rfl
    exact ⟨digits, depth, _, whole⟩

end LedgerGateway.Json
