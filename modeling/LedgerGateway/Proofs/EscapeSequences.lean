import LedgerGateway.Log.TerminalSafe
import Mathlib.Data.List.TakeWhile

/-!
# What is taken out of a line

A text is scanned from left to right: a complete escape sequence is one part of it, and every other
character is a part of its own. The parts of a text are settled by the text alone, and they tell
what is shown of it: nothing of a sequence, and a single character unless it is one of the control
characters. An escape character is such a character, so nothing that is shown begins a sequence, and
it does no harm that the text around a sequence may close up to another one.

* `Sequence` — the complete sequences, and `behindSequence?_eq_some_iff`.
* `Scan` — the parts of a text; `Scan.unique`, and `Scan.sanitize_eq`, what is shown of them.
* `sanitize_exact` — what is taken out, and what that leaves.
-/

namespace LedgerGateway.Log.TerminalSafe

open Text.ControlSequence (escape between isParameter isIntermediate isFinal behindBracket?)

/-! ## Sequences -/

/-- The code point of the character lies between two others. -/
def Between (low high : Nat) (c : Char) : Prop := low ≤ c.toNat ∧ c.toNat ≤ high

instance (low high : Nat) (c : Char) : Decidable (Between low high c) :=
  inferInstanceAs (Decidable (low ≤ c.toNat ∧ c.toNat ≤ high))

/-- The text is a complete escape sequence: a control sequence with its parameters, its
intermediates and its final character, or an escape character with a command behind it. -/
inductive Sequence : List Char → Prop where
  | control {parameters intermediates : List Char} {final : Char} :
      (∀ c ∈ parameters, Between 0x30 0x3F c) → (∀ c ∈ intermediates, Between 0x20 0x2F c) →
      Between 0x40 0x7E final →
      Sequence (escape :: '[' :: (parameters ++ (intermediates ++ [final])))
  | command {c : Char} : Between 0x40 0x5A c ∨ Between 0x5C 0x5F c → Sequence [escape, c]

theorem between_iff {low high : Nat} {c : Char} :
    between low high c = true ↔ Between low high c := by
  simp [between, Between]

theorem isCommand_iff {c : Char} :
    isCommand c = true ↔ Between 0x40 0x5A c ∨ Between 0x5C 0x5F c := by
  have bracket : c ≠ '[' ↔ c.toNat ≠ 0x5B := by
    rw [not_iff_not]
    constructor
    · rintro rfl
      rfl
    · intro same
      exact Char.toNat_inj.1 same
  rw [isCommand, Bool.and_eq_true, between_iff, bne_iff_ne, bracket, Between, Between, Between]
  omega

/-- Behind a bracket stands the rest of a control sequence, with its runs taken as long as they
go. -/
theorem behindBracket?_eq_some_iff {s rest : List Char} :
    behindBracket? s = some rest ↔
      ∃ parameters intermediates final, (∀ c ∈ parameters, Between 0x30 0x3F c) ∧
        (∀ c ∈ intermediates, Between 0x20 0x2F c) ∧ Between 0x40 0x7E final ∧
        s = parameters ++ (intermediates ++ final :: rest) := by
  constructor
  · intro h
    have parameters := List.takeWhile_append_dropWhile (p := isParameter) (l := s)
    have intermediates :=
      List.takeWhile_append_dropWhile (p := isIntermediate) (l := s.dropWhile isParameter)
    unfold behindBracket? at h
    split at h
    · cases h
    next final behind left =>
    split at h
    next isFinal =>
      obtain rfl := Option.some.inj h
      rw [left] at intermediates
      refine ⟨s.takeWhile isParameter, (s.dropWhile isParameter).takeWhile isIntermediate, final,
        ?_, ?_, between_iff.1 isFinal, ?_⟩
      · intro c mem
        exact between_iff.1 (List.mem_takeWhile_imp mem)
      · intro c mem
        exact between_iff.1 (List.mem_takeWhile_imp mem)
      · rw [intermediates, parameters]
    · cases h
  · rintro ⟨parameters, intermediates, final, isParameters, isIntermediates, isFinal, rfl⟩
    -- The three classes have no character in common, so each run ends where it should.
    have noParameter {c : Char} {others : List Char} (h : Between 0x20 0x2F c ∨ Between 0x40 0x7E c) :
        (c :: others).dropWhile isParameter = c :: others := by
      apply List.dropWhile_cons_of_neg
      rw [isParameter, between_iff]
      unfold Between at h ⊢
      omega
    have noIntermediate : ¬ isIntermediate final = true := by
      rw [isIntermediate, between_iff]
      unfold Between at isFinal ⊢
      omega
    have areParameters : ∀ c ∈ parameters, isParameter c = true :=
      fun c mem => between_iff.2 (isParameters c mem)
    have areIntermediates : ∀ c ∈ intermediates, isIntermediate c = true :=
      fun c mem => between_iff.2 (isIntermediates c mem)
    have first : (parameters ++ (intermediates ++ final :: rest)).dropWhile isParameter =
        intermediates ++ final :: rest := by
      rw [List.dropWhile_append_of_pos areParameters]
      cases intermediates with
      | nil => exact noParameter (.inr isFinal)
      | cons c others => exact noParameter (.inl (isIntermediates c List.mem_cons_self))
    have second : (intermediates ++ final :: rest).dropWhile isIntermediate = final :: rest := by
      rw [List.dropWhile_append_of_pos areIntermediates]
      exact List.dropWhile_cons_of_neg noIntermediate
    rw [behindBracket?, first, second]
    exact if_pos (between_iff.2 isFinal)

/-- Behind an escape character the reader finds exactly what makes a complete sequence of it. -/
theorem behindSequence?_eq_some_iff {s rest : List Char} :
    behindSequence? s = some rest ↔ ∃ q, Sequence (escape :: q) ∧ s = q ++ rest := by
  constructor
  · intro h
    cases s with
    | nil => cases h
    | cons c tail =>
      rw [behindSequence?] at h
      split at h
      next bracket =>
        subst bracket
        obtain ⟨parameters, intermediates, final, isParameters, isIntermediates, isFinal, rfl⟩ :=
          behindBracket?_eq_some_iff.1 h
        refine ⟨_, .control isParameters isIntermediates isFinal, ?_⟩
        simp
      next =>
        split at h
        next command =>
          obtain rfl := Option.some.inj h
          exact ⟨[c], .command (isCommand_iff.1 command), rfl⟩
        · cases h
  · rintro ⟨q, sequence, rfl⟩
    cases sequence with
    | control isParameters isIntermediates isFinal =>
      rw [List.cons_append, behindSequence?, if_pos rfl, behindBracket?_eq_some_iff]
      exact ⟨_, _, _, isParameters, isIntermediates, isFinal, by simp⟩
    | @command c isCommand =>
      have noBracket : c ≠ '[' := by
        rintro rfl
        exact absurd isCommand (by decide)
      rw [List.singleton_append, behindSequence?, if_neg noBracket,
        if_pos (isCommand_iff.2 isCommand)]

/-- A sequence begins with an escape character. -/
theorem Sequence.exists_tail {q : List Char} (h : Sequence q) : ∃ tail, q = escape :: tail := by
  cases h with
  | control => exact ⟨_, rfl⟩
  | command => exact ⟨_, rfl⟩

/-- No sequence is the beginning of another one. -/
theorem Sequence.cut {q q' rest rest' : List Char} (h : Sequence q) (h' : Sequence q')
    (same : q ++ rest = q' ++ rest') : q = q' ∧ rest = rest' := by
  obtain ⟨tail, rfl⟩ := h.exists_tail
  obtain ⟨tail', rfl⟩ := h'.exists_tail
  have behind : behindSequence? (tail ++ rest) = some rest :=
    behindSequence?_eq_some_iff.2 ⟨tail, h, rfl⟩
  have behind' : behindSequence? (tail' ++ rest') = some rest' :=
    behindSequence?_eq_some_iff.2 ⟨tail', h', rfl⟩
  have tails : tail ++ rest = tail' ++ rest' := (List.cons.inj same).2
  rw [tails, behind'] at behind
  obtain rfl := Option.some.inj behind
  exact ⟨by rw [List.append_cancel_right tails], rfl⟩

/-- There are only ASCII characters in a sequence. -/
theorem Sequence.ascii {q : List Char} (h : Sequence q) : ∀ c ∈ q, c.toNat < 0x80 := by
  have bound {low high : Nat} {c : Char} (small : high < 0x80) (h : Between low high c) :
      c.toNat < 0x80 := Nat.lt_of_le_of_lt h.2 small
  have escape_lt : escape.toNat < 0x80 := by decide
  cases h with
  | control isParameters isIntermediates isFinal =>
    intro c mem
    simp only [List.mem_cons, List.mem_append, List.not_mem_nil, or_false] at mem
    rcases mem with rfl | rfl | mem | mem | rfl
    · exact escape_lt
    · decide
    · exact bound (by decide) (isParameters c mem)
    · exact bound (by decide) (isIntermediates c mem)
    · exact bound (by decide) isFinal
  | command isCommand =>
    intro c mem
    simp only [List.mem_cons, List.not_mem_nil, or_false] at mem
    rcases mem with rfl | rfl
    · exact escape_lt
    · rcases isCommand with low | high
      · exact bound (by decide) low
      · exact bound (by decide) high

/-! ## The scan -/

/-- A part of a text: a sequence, or a character of its own. -/
inductive Part where
  | sequence (q : List Char)
  | single (c : Char)
  deriving DecidableEq, Repr

/-- The control characters that are not shown: those of ASCII other than tab and line feed. -/
def Hidden (c : Char) : Prop := c.toNat ≤ 0x8 ∨ Between 0xB 0x1F c ∨ c.toNat = 0x7F

instance (c : Char) : Decidable (Hidden c) :=
  inferInstanceAs (Decidable (c.toNat ≤ 0x8 ∨ Between 0xB 0x1F c ∨ c.toNat = 0x7F))

namespace Part

/-- The characters of a part. -/
def text : Part → List Char
  | sequence q => q
  | single c => [c]

/-- What is left of a part once the sequences are taken out. -/
def unsequenced : Part → List Char
  | sequence _ => []
  | single c => [c]

/-- What is shown of a part. -/
def shown : Part → List Char
  | sequence _ => []
  | single c => if Hidden c then [] else [c]

end Part

/-- A text in its parts. At each place a sequence is taken if one is complete there. -/
inductive Scan : List Char → List Part → Prop where
  | nil : Scan [] []
  | sequence {q rest : List Char} {parts : List Part} : Sequence q → Scan rest parts →
      Scan (q ++ rest) (.sequence q :: parts)
  | single {c : Char} {rest : List Char} {parts : List Part} :
      (∀ q behind, Sequence q → c :: rest ≠ q ++ behind) → Scan rest parts →
      Scan (c :: rest) (.single c :: parts)

/-- A text is its parts in order. -/
theorem Scan.text_eq {s : List Char} {parts : List Part} (h : Scan s parts) :
    parts.flatMap Part.text = s := by
  induction h with
  | nil => rfl
  | sequence _ _ ih => rw [List.flatMap_cons, ih, Part.text]
  | single _ _ ih => rw [List.flatMap_cons, ih, Part.text, List.singleton_append]

/-- The parts that are no single characters are complete sequences. -/
theorem Scan.isSequence {s q : List Char} {parts : List Part} (h : Scan s parts)
    (mem : .sequence q ∈ parts) : Sequence q := by
  induction h with
  | nil => cases mem
  | sequence own _ ih =>
    rcases List.mem_cons.1 mem with same | behind
    · rwa [Part.sequence.inj same]
    · exact ih behind
  | single _ _ ih =>
    rcases List.mem_cons.1 mem with same | behind
    · cases same
    · exact ih behind

/-- A text has only one way to be scanned. -/
theorem Scan.unique {s : List Char} {parts parts' : List Part} (h : Scan s parts)
    (h' : Scan s parts') : parts = parts' := by
  induction h generalizing parts' with
  | nil =>
    -- Only the first rule scans the empty text, since a sequence is not empty.
    generalize empty : ([] : List Char) = s at h'
    cases h' with
    | nil => rfl
    | sequence sequence _ =>
      obtain ⟨tail, rfl⟩ := sequence.exists_tail
      cases empty
    | single => cases empty
  | @sequence q rest parts sequence scan ih =>
    generalize whole : q ++ rest = s at h'
    cases h' with
    | nil =>
      obtain ⟨tail, rfl⟩ := sequence.exists_tail
      cases whole
    | sequence sequence' scan' =>
      obtain ⟨rfl, rfl⟩ := sequence.cut sequence' whole
      rw [ih scan']
    | single none _ => exact absurd whole.symm (none q rest sequence)
  | @single c rest parts none scan ih =>
    generalize whole : c :: rest = s at h'
    cases h' with
    | nil => cases whole
    | @sequence q' rest' _ sequence' _ => exact absurd whole (none q' rest' sequence')
    | single _ scan' =>
      obtain ⟨rfl, rfl⟩ := List.cons.inj whole
      rw [ih scan']

/-- Every text is scanned, and taking the sequences out leaves the single characters. -/
theorem exists_scan (s : List Char) :
    ∃ parts, Scan s parts ∧ removeSequences s = parts.flatMap Part.unsequenced := by
  induction s using removeSequences.induct with
  | case1 => exact ⟨[], .nil, by rw [removeSequences, List.flatMap_nil]⟩
  | case2 rest behind found ih =>
    obtain ⟨parts, scan, removed⟩ := ih
    obtain ⟨q, sequence, rfl⟩ := behindSequence?_eq_some_iff.1 found
    refine ⟨_, scan.sequence sequence, ?_⟩
    rw [removeSequences, if_pos rfl, found]
    exact removed
  | case3 rest none ih =>
    obtain ⟨parts, scan, removed⟩ := ih
    refine ⟨_, .single ?_ scan, ?_⟩
    · intro q behind sequence whole
      obtain ⟨tail, rfl⟩ := sequence.exists_tail
      have found := behindSequence?_eq_some_iff.2 ⟨tail, sequence, (List.cons.inj whole).2⟩
      rw [none] at found
      cases found
    · rw [removeSequences, if_pos rfl, none, List.flatMap_cons, ← removed]
      rfl
  | case4 c rest other ih =>
    obtain ⟨parts, scan, removed⟩ := ih
    refine ⟨_, .single ?_ scan, ?_⟩
    · intro q behind sequence whole
      obtain ⟨tail, rfl⟩ := sequence.exists_tail
      exact other (List.cons.inj whole).1
    · rw [removeSequences, if_neg other, List.flatMap_cons, ← removed]
      rfl

/-! ## What is shown -/

theorem isControl_iff {c : Char} : isControl c = true ↔ Hidden c := by
  have code (d : Char) : c = d ↔ c.toNat = d.toNat := Char.toNat_inj.symm
  simp only [isControl, Hidden, Between, Bool.or_eq_true, Bool.and_eq_true, decide_eq_true_eq,
    bne_iff_ne, beq_iff_eq, ne_eq, code]
  simp only [show '\t'.toNat = 0x9 from rfl, show '\n'.toNat = 0xA from rfl,
    show '\x7f'.toNat = 0x7F from rfl]
  omega

theorem Part.filter_unsequenced (p : Part) :
    (p.unsequenced.filter fun c => !isControl c) = p.shown := by
  cases p with
  | sequence q => rfl
  | single c =>
    by_cases hidden : Hidden c
    · simp [unsequenced, shown, hidden, isControl_iff.2 hidden]
    · have other : isControl c = false := by
        rw [← Bool.not_eq_true, isControl_iff]
        exact hidden
      simp [unsequenced, shown, hidden, other]

/-- What is shown of a text is what is shown of its parts. -/
theorem Scan.sanitize_eq {s : List Char} {parts : List Part} (h : Scan s parts) :
    sanitize s = parts.flatMap Part.shown := by
  obtain ⟨own, scan, removed⟩ := exists_scan s
  obtain rfl := h.unique scan
  rw [sanitize, removed, List.filter_flatMap]
  simp only [Part.filter_unsequenced]

theorem Part.shown_sublist (p : Part) : p.shown.Sublist p.text := by
  cases p with
  | sequence q => exact List.nil_sublist q
  | single c =>
    rw [shown]
    split
    · exact List.nil_sublist _
    · exact List.Sublist.refl _

/-- What is shown is left of the text, in its order. -/
theorem sanitize_sublist (s : List Char) : (sanitize s).Sublist s := by
  obtain ⟨parts, scan, -⟩ := exists_scan s
  have left : (parts.flatMap Part.shown).Sublist (parts.flatMap Part.text) := by
    clear scan
    induction parts with
    | nil => exact List.Sublist.refl _
    | cons p rest ih =>
      rw [List.flatMap_cons, List.flatMap_cons]
      exact p.shown_sublist.append ih
  rwa [← scan.sanitize_eq, scan.text_eq] at left

/-- Nothing that is hidden is shown. -/
theorem not_hidden_of_mem_sanitize {s : List Char} {c : Char} (mem : c ∈ sanitize s) :
    ¬ Hidden c := by
  have kept := (List.mem_filter.1 mem).2
  rw [← isControl_iff]
  simpa using kept

theorem escape_hidden : Hidden escape := by decide

/-! ## Texts without escape character -/

/-- Where there is no escape character there is no sequence. -/
theorem removeSequences_of_not_mem {s : List Char} (h : escape ∉ s) : removeSequences s = s := by
  induction s with
  | nil => rw [removeSequences]
  | cons c rest ih =>
    rw [List.mem_cons, not_or] at h
    obtain ⟨other, behind⟩ := h
    rw [removeSequences, if_neg (Ne.symm other), ih behind]

theorem sanitize_of_not_mem {s : List Char} (h : escape ∉ s) :
    sanitize s = s.filter fun c => ¬ Hidden c := by
  rw [sanitize, removeSequences_of_not_mem h]
  apply List.filter_congr
  intro c _
  rw [Bool.eq_iff_iff, Bool.not_eq_true', ← Bool.not_eq_true, isControl_iff, decide_eq_true_eq]

/-- A front without hidden characters is shown as it is, whatever stands behind it. -/
theorem sanitize_append_of_not_hidden {front : List Char} (kept : ∀ c ∈ front, ¬ Hidden c)
    (s : List Char) : sanitize (front ++ s) = front ++ sanitize s := by
  induction front with
  | nil => rfl
  | cons c front ih =>
    obtain ⟨own, behind⟩ := List.forall_mem_cons.1 kept
    have other : c ≠ escape := fun same => own (same ▸ escape_hidden)
    have visible : isControl c = false := Bool.eq_false_iff.2 (isControl_iff.not.2 own)
    have step : sanitize (c :: (front ++ s)) = c :: sanitize (front ++ s) := by
      rw [sanitize, removeSequences, if_neg other]
      simp only [List.filter_cons, visible, Bool.not_false, if_true]
      rfl
    rw [List.cons_append, step, ih behind, List.cons_append]

/-- What is shown holds nothing that would be taken out once more. -/
theorem sanitize_sanitize (s : List Char) : sanitize (sanitize s) = sanitize s := by
  have noEscape : escape ∉ sanitize s := by
    intro mem
    exact not_hidden_of_mem_sanitize mem escape_hidden
  rw [sanitize_of_not_mem noEscape]
  apply List.filter_eq_self.2
  intro c mem
  exact decide_eq_true (not_hidden_of_mem_sanitize mem)

/-- **What is taken out of a text.** A text has one scan, and what is shown are its single
characters but for the hidden ones; so nothing of a sequence is shown, and nothing else is lost.
What is shown stays as it is when it is treated again. Without escape character only the hidden
characters go, one text behind the other. -/
theorem sanitize_exact (s : List Char) :
    sanitize (sanitize s) = sanitize s ∧
    (sanitize s).Sublist s ∧
    (∃ parts, Scan s parts ∧ (∀ other, Scan s other → other = parts) ∧
      parts.flatMap Part.text = s ∧ sanitize s = parts.flatMap Part.shown) ∧
    (escape ∉ s → sanitize s = (s.filter fun c => ¬ Hidden c) ∧
      ∀ t, escape ∉ t → sanitize (s ++ t) = sanitize s ++ sanitize t) := by
  refine ⟨sanitize_sanitize s, sanitize_sublist s, ?_, ?_⟩
  · obtain ⟨parts, scan, -⟩ := exists_scan s
    exact ⟨parts, scan, fun other scan' => scan'.unique scan, scan.text_eq, scan.sanitize_eq⟩
  · intro noEscape
    refine ⟨sanitize_of_not_mem noEscape, ?_⟩
    intro t noEscape'
    have together : escape ∉ s ++ t := by
      rw [List.mem_append, not_or]
      exact ⟨noEscape, noEscape'⟩
    rw [sanitize_of_not_mem together, List.filter_append, ← sanitize_of_not_mem noEscape,
      ← sanitize_of_not_mem noEscape']

example : sanitize "\x1b[3\x1b[1mx\x1b".toList = "[3x".toList := by decide +kernel

end LedgerGateway.Log.TerminalSafe
