import LedgerGateway.Proofs.JsonCompleteness
import LedgerGateway.Proofs.JsonSoundness

/-!
# Reading whole JSON texts

A whole text is read, or it is malformed, or it passes a limit. Each of the three is told from the
text alone.

* `readAll_eq_ok_iff` — a text is read as a value exactly if it spells it within the limits.
* `readAll_limit_iff` — the reader stops at a limit exactly if the text passes one.
* `readAll_of_wholeText` — a text of the strict or the liberal grammar is read unless it passes a
  limit; it is never malformed.
* `overruns_digits`, `overruns_brackets` — two kinds of text that pass a limit.
* `WholeText.ascii_head`, `WholeText.no_nul` — texts begin in ASCII and hold no zero character.
-/

namespace LedgerGateway.Json

open Text.Unread
open Decimal (digitLimit)

variable {depth : Nat} {text : List Char}

theorem readAll_eq (depth : Nat) (text : List Char) :
    readAll depth text =
      match bare (readValue depth (skipGap text).val) with
      | .error e => .error e
      | .ok (v, rest) =>
        if (skipGap rest).val.isEmpty then .ok v
        else .error (.malformed .extraData (skipGap rest).val) := by
  rw [readAll]
  cases readValue depth (skipGap text).val <;> rfl

theorem skipGap_eq_nil_iff {s : List Char} : (skipGap s).val = [] ↔ Gap s := by
  show s.dropWhile isGap = [] ↔ _
  rw [List.dropWhile_eq_nil_iff]
  rfl

/-- A text is read as a value exactly if it spells the value within the limits. -/
theorem readAll_eq_ok_iff {v : Json} :
    readAll depth text = .ok v ↔ WholeText words digitLimit depth v text := by
  rw [readAll_eq]
  constructor
  · intro h
    split at h
    · exact absurd h (by simp)
    · next v' rest read =>
      split at h
      · next empty =>
        rw [← Except.ok.inj h]
        obtain ⟨s, spelt, eq⟩ := ((sound _).1 depth).spelt read
        obtain ⟨g, gap, eq'⟩ := exists_gap text
        refine ⟨g, s, rest, gap, spelt, skipGap_eq_nil_iff.1 (by simpa using empty), ?_⟩
        rw [← eq, ← eq']
      · exact absurd h (by simp)
  · rintro ⟨g, s, g', gap, spelt, gap', rfl⟩
    have begins := (spelt.begins fun _ => id).append g'
    rw [begins.skipGap_eq gap, read_of_spelt spelt (ends_of_gap gap')]
    simp [skipGap_eq_nil_iff.2 gap']

/-- The reader stops at a limit exactly if the text passes one. -/
theorem readAll_limit_iff :
    (∃ e, readAll depth text = .error e ∧ e.IsLimit) ↔ Overruns depth text := by
  rw [readAll_eq]
  constructor
  · rintro ⟨e, h, limit⟩
    obtain ⟨g, gap, eq⟩ := exists_gap text
    split at h
    · next e' read =>
      rw [← Except.error.inj h] at limit
      exact ⟨g, _, gap, eq, ((sound _).1 depth).overruns read limit⟩
    · split at h
      · exact absurd h (by simp)
      · -- Text that is left over is no limit.
        rw [← Except.error.inj h] at limit
        exact limit.elim
  · rintro ⟨g, s, gap, rfl, overrun⟩
    obtain ⟨begins, e, error, limit⟩ := overrun.stops
    refine ⟨e, ?_, limit⟩
    rw [begins.skipGap_eq gap, error]

/-- A text of the grammar, strict or liberal, is read unless it passes a limit. -/
theorem readAll_of_wholeText {W : List (List Char × Json)} {digits room : Nat} {v : Json}
    (known : ∀ w ∈ W, w ∈ words) (h : WholeText W digits room v text) (depth : Nat) :
    readAll depth text = .ok v ∨ Overruns depth text := by
  obtain ⟨g, s, g', gap, spelt, gap', rfl⟩ := h
  rw [← readAll_limit_iff, readAll_eq]
  have begins := (spelt.begins known).append g'
  rw [begins.skipGap_eq gap]
  obtain ok | ⟨-, e, error, limit⟩ := complete known spelt depth g' (ends_of_gap gap')
  · rw [ok]
    exact .inl (by simp [skipGap_eq_nil_iff.2 gap'])
  · exact .inr ⟨e, by rw [error], limit⟩

/-! ## Texts that pass a limit -/

/-- One digit too many passes the limit on integers. -/
theorem overruns_digits (depth : Nat) {n : Nat} (h : digitLimit ≤ n) :
    Overruns depth ('1' :: List.replicate n '1') := by
  have digits : Numeral.Digits (List.replicate n '1') := by
    intro c mem
    rw [List.eq_of_mem_replicate mem]
    decide
  have spells : Numeral.Spells ⟨false, '1', List.replicate n '1', [], none⟩
      ('1' :: List.replicate n '1') := by
    refine ⟨⟨rfl, digits, fun zero => absurd zero (by simp), ?_, ?_⟩, 'e', .inl rfl, ?_⟩
    · exact fun c mem => absurd mem (by simp)
    · exact fun sign ds some_ => absurd some_ (by simp)
    · simp [Numeral.chars, Numeral.fractionChars, Numeral.exponentChars]
  have scanned := Numeral.scan_of_spells spells (r := []) fun c head => absurd head (by simp)
  rw [List.append_nil] at scanned
  refine ⟨[], _, gap_nil, rfl, .of_excessive ?_⟩
  refine .number (Numeral.scan_eq_some_iff.1 scanned) rfl ?_
  rw [Numeral.count, List.length_replicate]
  omega

/-- One bracket too many passes the limit on depth. -/
theorem overruns_brackets (depth n : Nat) :
    Overruns depth (List.replicate (depth + 1 + n) '[') := by
  refine ⟨[], _, gap_nil, rfl, ?_⟩
  -- Each bracket begins an array whose first item begins with the next one.
  induction depth with
  | zero =>
    rw [Nat.zero_add, Nat.add_comm, List.replicate_succ]
    exact .of_excessive .array
  | succ depth ih =>
    rw [Nat.add_right_comm (depth + 1) 1 n, List.replicate_succ]
    exact .of_descends (.array gap_nil) (.of_descends .item ih)

/-! ## The characters of texts -/

theorem ascii_head {g s : List Char} (gap : Gap g) (begins : Begins s) :
    ∃ c t, g ++ s = c :: t ∧ c.toNat < 0x80 := by
  cases g with
  | nil =>
    obtain ⟨c, t, rfl, opens⟩ := begins
    exact ⟨c, t, rfl, opens.ascii⟩
  | cons c g =>
    refine ⟨c, g ++ s, rfl, ?_⟩
    obtain rfl | rfl | rfl | rfl := isGap_iff.1 (gap c (by simp)) <;> decide

theorem WholeText.ascii_head {W : List (List Char × Json)} {digits room : Nat} {v : Json}
    (known : ∀ w ∈ W, w ∈ words) (h : WholeText W digits room v text) :
    ∃ c t, text = c :: t ∧ c.toNat < 0x80 := by
  obtain ⟨g, s, g', gap, spelt, -, rfl⟩ := h
  exact Json.ascii_head gap ((spelt.begins known).append g')

theorem Overruns.ascii_head (h : Overruns depth text) :
    ∃ c t, text = c :: t ∧ c.toNat < 0x80 := by
  obtain ⟨g, s, gap, rfl, overrun⟩ := h
  exact Json.ascii_head gap overrun.stops.1

theorem digits_not_mem {x a b c d : Char} {u : Nat} (none_ : Hex.digitValue? x = none)
    (h : Hex.value? [a, b, c, d] = some u) : x ∉ [a, b, c, d] := by
  intro mem
  simp only [List.mem_cons, List.not_mem_nil, or_false] at mem
  simp only [Hex.value?, List.foldlM_cons, List.foldlM_nil, Hex.pushDigit] at h
  obtain rfl | rfl | rfl | rfl := mem <;> simp [none_] at h

/-- A quoted string holds no control character. -/
theorem Quoted.control_not_mem {x : Char} (control : x.toNat < 0x20) {t q : List Char}
    (h : Quoted t q) : x ∉ q := by
  have other : ∀ c : Char, 0x20 ≤ c.toNat → x ≠ c := by
    rintro c visible rfl
    omega
  have none_ : Hex.digitValue? x = none := by
    simp only [Hex.digitValue?]
    rw [if_neg (by omega), if_neg (by omega), if_neg (by omega)]
  induction h with
  | done => simpa using other '"' (by decide)
  | plain visible _ _ _ ih => simp [other _ visible, ih]
  | @short e c t s escape _ ih =>
    have letter : 0x20 ≤ e.toNat := by
      unfold shortEscape? at escape
      split at escape <;> first | decide | cases escape
    simp [other _ letter, other '\\' (by decide), ih]
  | alone digits _ _ ih =>
    have := digits_not_mem none_ digits
    have := other '\\' (by decide)
    have := other 'u' (by decide)
    simp_all
  | pair digits _ digits' _ _ ih =>
    have := digits_not_mem none_ digits
    have := digits_not_mem none_ digits'
    have := other '\\' (by decide)
    have := other 'u' (by decide)
    simp_all

theorem Quoted.no_nul {t q : List Char} (h : Quoted t q) : '\x00' ∉ q :=
  h.control_not_mem (by decide)

section Foreign

variable {x : Char}

theorem Gap.not_mem {g : List Char} (h : Gap g) (solid : isGap x = false) : x ∉ g :=
  fun mem => absurd ((h x mem).symm.trans solid) (by decide)

theorem Marked.not_mem {mark : Char} {m : List Char} (h : Marked mark m) (solid : isGap x = false)
    (other : x ≠ mark) : x ∉ m := by
  obtain ⟨g, g', gap, gap', rfl⟩ := h
  simp [gap.not_mem solid, gap'.not_mem solid, other]

theorem Closing.not_mem {mark : Char} {z : List Char} (h : Closing mark z)
    (solid : isGap x = false) (other : x ≠ mark) : x ∉ z := by
  obtain ⟨g, gap, rfl⟩ := h
  simp [gap.not_mem solid, other]

theorem Numeral.Digits.not_mem {ds : List Char} (h : Numeral.Digits ds)
    (foreign : x.isDigit = false) : x ∉ ds :=
  fun mem => absurd ((h x mem).symm.trans foreign) (by decide)

/-- A numeral holds nothing but digits, signs, a point and the letter of an exponent. -/
theorem Numeral.Spells.not_mem {n : Numeral} {s : List Char} (h : n.Spells s)
    (foreign : x.isDigit = false) (sign : x ∉ ['-', '+', '.', 'e', 'E']) : x ∉ s := by
  obtain ⟨regular, letter, e, rfl⟩ := h
  simp only [List.mem_cons, List.not_mem_nil, or_false, not_or] at sign
  obtain ⟨minus, plus, point, small, capital⟩ := sign
  have front : x ∉ (if n.negative then ['-'] else []) := by
    split <;> simp [minus]
  have first : x ≠ n.first := by
    rintro rfl
    exact absurd (regular.first.symm.trans foreign) (by decide)
  have fraction : x ∉ n.fractionChars := by
    unfold fractionChars
    split
    · simp
    · simp [point, regular.fraction.not_mem foreign]
  have exponent : x ∉ exponentChars letter n.exponent := by
    cases power : n.exponent with
    | none => simp [exponentChars]
    | some p =>
      obtain ⟨s, ds⟩ := p
      obtain ⟨signs, -, digits⟩ := regular.exponent s ds power
      obtain rfl | rfl := e <;> obtain rfl | rfl | rfl := signs <;>
        simp [exponentChars, digits.not_mem foreign, minus, plus, small, capital]
  simp [chars, front, first, regular.more.not_mem foreign, fraction, exponent]

end Foreign

theorem Gap.no_nul {g : List Char} (h : Gap g) : '\x00' ∉ g := h.not_mem rfl

theorem Marked.no_nul {mark : Char} {m : List Char} (h : Marked mark m) (visible : '\x00' ≠ mark) :
    '\x00' ∉ m := h.not_mem rfl visible

theorem Closing.no_nul {mark : Char} {z : List Char} (h : Closing mark z)
    (visible : '\x00' ≠ mark) : '\x00' ∉ z := h.not_mem rfl visible

theorem Label.no_nul {name : String} {l : List Char} (h : Label name l) : '\x00' ∉ l := by
  obtain ⟨quoted, marked⟩ := h
  simp [quoted.no_nul, marked.no_nul (by decide)]

/-- No text of the grammar holds a zero character. -/
theorem Spelt.no_nul {W : List (List Char × Json)} (known : ∀ w ∈ W, w ∈ words)
    {digits depth : Nat} {node : Node} {s : List Char} (h : Spelt W digits depth node s) :
    '\x00' ∉ s := by
  have word : ∀ w ∈ words, '\x00' ∉ w.1 := by decide
  induction h with
  | word mem => exact word _ (known _ mem)
  | number spells => exact spells.not_mem rfl (by decide)
  | string quoted => simp [quoted.no_nul]
  | emptyArray closing | emptyObject closing => simp [closing.no_nul (by decide)]
  | array gap _ ih | object gap _ ih => simp [gap.no_nul, ih]
  | lastItem _ closing ih => simp [ih, closing.no_nul (by decide)]
  | item _ marked _ ih ih' => simp [ih, marked.no_nul (by decide), ih']
  | lastMember label _ closing ih => simp [label.no_nul, ih, closing.no_nul (by decide)]
  | member label _ marked _ ih ih' => simp [label.no_nul, ih, marked.no_nul (by decide), ih']

theorem WholeText.no_nul {W : List (List Char × Json)} {digits room : Nat} {v : Json}
    (known : ∀ w ∈ W, w ∈ words) (h : WholeText W digits room v text) : '\x00' ∉ text := by
  obtain ⟨g, s, g', gap, spelt, gap', rfl⟩ := h
  simp [gap.no_nul, spelt.no_nul known, gap'.no_nul]

end LedgerGateway.Json
