import LedgerGateway.Proofs.Outcomes
import LedgerGateway.Proofs.SpeltWords
import LedgerGateway.Settings.Registry
import LedgerGateway.Text.CaseFolding

/-!
# Settings that are truth values

A text stands for a truth value if it is the word true or the word false once the blanks around it
are taken away and its case is put aside. Which texts are such words is told by folding them; their
value is read off the word in title case. The two agree on all texts but one kind: the long s folds
to an s, but it is a small letter itself, so in title case it stays. The word false with a long s is
first taken for a truth value and then names none, and a setting of this text keeps all settings
from being loaded.

* `folded_eq_iff` — which texts fold to one of the words.
* `flagOf?_eq` — a truth value is recognized by folding, and read in title case.
* `settings_load_iff` — which environment files are loaded, and what the settings are then.
-/

namespace LedgerGateway.Settings

open Text (folded foldOf titled trim forall_ascii)

/-! ## Letters -/

/-- The word for a truth value. -/
def wordOf : Bool → List Char
  | true => "true".toList
  | false => "false".toList

/-- The letters of the two words. -/
def flagLetters : List Char := "truefals".toList

/-- The texts in these letters that single characters fold to. -/
def foldedPairs : List (List Char) :=
  ["ss".toList, "ff".toList, "fl".toList, "ffl".toList, "st".toList]

/-- A character of ASCII, or the long s. -/
def Plain (c : Char) : Prop := c.toNat < 0x80 ∨ c = '\u017F'

theorem mem_flagLetters_of_mem_wordOf {b : Bool} : ∀ d ∈ wordOf b, d ∈ flagLetters := by
  cases b
  all_goals decide

theorem Plain.of_flagLetter {c : Char} (h : c ∈ flagLetters) : Plain c := by
  have ascii : ∀ d ∈ flagLetters, d.toNat < 0x80 := by decide
  exact .inl (ascii c h)

theorem foldOf_plain {c : Char} (h : Plain c) : foldOf c = [foldCase c] := by
  rcases h with ascii | rfl
  · exact forall_ascii (p := fun c => foldOf c = [foldCase c]) (by decide +kernel) ascii
  · decide +kernel

/-- Runs of capitals but for those of ASCII have none of the letters as small ones. -/
theorem apart_capitalRuns : ∀ r ∈ Text.capitalRuns, r.high < 0x80 ∨
    ∀ d ∈ flagLetters, d.toNat < r.small ∨ r.small + (r.high - r.low) < d.toNat := by
  decide +kernel

theorem ofNat_not_mem_flagLetters {n : Nat} (other : ∀ d ∈ flagLetters, d.toNat ≠ n) :
    Char.ofNat n ∉ flagLetters :=
  Text.ofNat_not_mem (by decide) other

theorem smallLetter_not_mem {c : Char} (h : ¬ Plain c) : Text.smallLetter c ∉ flagLetters := by
  unfold Text.smallLetter
  split
  · next n found =>
    obtain ⟨r, mem, own⟩ := List.exists_of_findSome?_eq_some found
    unfold Text.CapitalRun.small? at own
    split at own
    · next range =>
      obtain ⟨low, high, -⟩ := range
      obtain rfl := Option.some.inj own
      rcases apart_capitalRuns r mem with ascii | apart
      · exact absurd (.inl (Nat.lt_of_le_of_lt high ascii)) h
      · refine ofNat_not_mem_flagLetters fun d letter => ?_
        have := apart d letter
        omega
    · cases own
  · exact fun letter => h (.of_flagLetter letter)

theorem cherokeeFold?_not_mem {n m : Nat} (h : Text.cherokeeFold? n = some m) :
    Char.ofNat m ∉ flagLetters := by
  have high : 0x80 ≤ m := by
    unfold Text.cherokeeFold? at h
    split_ifs at h
    all_goals
      cases h
      omega
  have low : ∀ d ∈ flagLetters, d.toNat < 0x80 := by decide
  refine ofNat_not_mem_flagLetters fun d letter => ?_
  have := low d letter
  omega

/-- What any other character folds to is not in these letters, or is one of a few texts. -/
theorem foldOf_cases {c : Char} (h : ¬ Plain c) :
    (∃ d ∈ foldOf c, d ∉ flagLetters) ∨ foldOf c ∈ foldedPairs := by
  unfold foldOf
  split
  · next ns found =>
    have all : ∀ e ∈ Text.furtherFolds, e.1 = 0x17F ∨
        (∃ d ∈ e.2.map Char.ofNat, d ∉ flagLetters) ∨ e.2.map Char.ofNat ∈ foldedPairs := by
      decide +kernel
    rcases all _ (Association.mem_of_lookup found) with long | other
    · exact absurd (.inr (Char.toNat_inj.1 long)) h
    · exact other
  · split
    · next m found => exact .inl ⟨_, List.mem_singleton_self _, cherokeeFold?_not_mem found⟩
    · exact .inl ⟨_, List.mem_singleton_self _, smallLetter_not_mem h⟩

/-! ## Words -/

section Words

variable {s : List Char} {b : Bool}

/-- What another character folds to does not stand within the word. -/
theorem foldOf_apart (b : Bool) {c : Char} (other : ¬ Plain c) : ¬ foldOf c <:+: wordOf b := by
  intro inside
  rcases foldOf_cases other with ⟨d, part, foreign⟩ | pair
  · exact foreign (mem_flagLetters_of_mem_wordOf d (inside.subset part))
  · have none : ∀ b, ∀ pair ∈ foldedPairs, ¬ pair <:+: wordOf b := by decide
    exact none b _ pair inside

theorem foldCase_apart (b : Bool) {c : Char} (other : ¬ Plain c) : ¬ [foldCase c] <:+: wordOf b := by
  intro inside
  have letter : foldCase c ∈ flagLetters :=
    mem_flagLetters_of_mem_wordOf _ (inside.subset List.mem_cons_self)
  obtain ⟨high, short⟩ := not_or.1 other
  rw [foldCase, if_neg short] at letter
  unfold Char.toLower at letter
  split at letter
  · next capital =>
    have last : c.val.toNat ≤ 'Z'.val.toNat := UInt32.le_iff_toNat_le.1 capital.2
    exact high (Nat.lt_of_le_of_lt last (by decide))
  · exact other (.of_flagLetter letter)

/-- What folds to one of the words is made of plain characters. -/
theorem plain_of_folded (own : folded s = wordOf b) : ∀ c ∈ s, Plain c :=
  Text.usual_of_flatMap_eq (fun _ => foldOf_apart b) own

/-- **Which texts fold to one of the words.** It is enough to fold the letters of ASCII and the long
s: nothing else folds to letters of the words. -/
theorem folded_eq_iff : folded s = wordOf b ↔ s.map foldCase = wordOf b := by
  rw [folded, List.map_eq_flatMap]
  refine Text.flatMap_eq_iff (fun _ => foldOf_plain) fun c other => ?_
  exact ⟨foldOf_apart b other, foldCase_apart b other⟩

end Words

/-! ## Spellings -/

/-- The plain characters that fold to a letter. -/
def spellingsOf (d : Char) : List Char :=
  d :: d.toUpper :: if d = 's' then ['\u017F'] else []

/-- The plain texts that fold to a word. -/
def spellings : List Char → List (List Char)
  | [] => [[]]
  | d :: rest => (spellingsOf d).flatMap fun c => (spellings rest).map (c :: ·)

theorem mem_spellingsOf {c : Char} (plain : Plain c) : c ∈ spellingsOf (foldCase c) := by
  rcases plain with ascii | rfl
  · exact forall_ascii (p := fun c => c ∈ spellingsOf (foldCase c)) (by decide +kernel) ascii
  · decide

theorem mem_spellings {s : List Char} (plain : ∀ c ∈ s, Plain c) :
    s ∈ spellings (s.map foldCase) := by
  induction s with
  | nil => exact List.mem_singleton_self _
  | cons c s ih =>
    obtain ⟨own, behind⟩ := List.forall_mem_cons.1 plain
    exact List.mem_flatMap.2
      ⟨c, mem_spellingsOf own, List.mem_map_of_mem (ih behind)⟩

/-- The value that a word in title case is the name of. -/
def valueOf? (s : List Char) : Option Bool :=
  if s = "True".toList then some true else if s = "False".toList then some false else none

/-- Each spelling of a word has its value in title case, but not with the long s. -/
theorem valueOf?_titled (b : Bool) : ∀ s ∈ spellings (wordOf b),
    valueOf? (titled s) = if s.contains '\u017F' then none else some b := by
  -- The spellings are few enough to be tried one by one.
  cases b
  all_goals decide +kernel

/-! ## Truth values -/

/-- The text spells a truth value: it folds to the word for it once the blanks around it are taken
away. -/
def Spells (s : String) (b : Bool) : Prop := folded (trim s.toList) = wordOf b

/-- The text spells a truth value with the long s. -/
def Misspells (s : String) : Prop := (∃ b, Spells s b) ∧ '\u017F' ∈ trim s.toList

theorem wordOf_injective {b b' : Bool} (same : wordOf b = wordOf b') : b = b' := by
  revert b b'
  decide

theorem Spells.unique {s : String} {b b' : Bool} (h : Spells s b) (h' : Spells s b') : b = b' :=
  wordOf_injective (h.symm.trans h')

section Flags

variable {s : String} {b : Bool}

theorem flagOf?_of_spells (own : Spells s b) (short : '\u017F' ∉ trim s.toList) :
    flagOf? s = .ok (some b) := by
  have word := folded_eq_iff.1 own
  cases b
  all_goals
    simp only [wordOf] at word
    simp [flagOf?, word, short]

theorem flagOf?_of_misspells (h : Misspells s) : flagOf? s = .error ⟨s⟩ := by
  obtain ⟨⟨b, own⟩, long⟩ := h
  have word := folded_eq_iff.1 own
  cases b
  all_goals
    simp only [wordOf] at word
    simp [flagOf?, word, long]

theorem flagOf?_of_other (other : ∀ b, ¬ Spells s b) : flagOf? s = .ok none := by
  have noTrue := folded_eq_iff.not.1 (other true)
  have noFalse := folded_eq_iff.not.1 (other false)
  simp only [wordOf] at noTrue noFalse
  simp only [flagOf?, noTrue, noFalse, or_self, if_false]

theorem Spells.valueOf?_eq (own : Spells s b) : valueOf? (titled (trim s.toList)) =
    if (trim s.toList).contains '\u017F' then none else some b := by
  have spelling := mem_spellings (plain_of_folded own)
  rw [folded_eq_iff.1 own] at spelling
  exact valueOf?_titled b _ spelling

end Flags

/-- A text spells a truth value, or it is misspelt, or it spells none. -/
theorem flagOf?_cases (s : String) :
    (∃ b, Spells s b ∧ ¬ Misspells s ∧ flagOf? s = .ok (some b)) ∨
    (Misspells s ∧ flagOf? s = .error ⟨s⟩) ∨
    (∀ b, ¬ Spells s b) ∧ flagOf? s = .ok none := by
  by_cases spelt : ∃ b, Spells s b
  · obtain ⟨b, own⟩ := spelt
    by_cases long : '\u017F' ∈ trim s.toList
    · have wrong : Misspells s := ⟨⟨b, own⟩, long⟩
      exact .inr (.inl ⟨wrong, flagOf?_of_misspells wrong⟩)
    · exact .inl ⟨b, own, fun wrong => long wrong.2, flagOf?_of_spells own long⟩
  · have other : ∀ b, ¬ Spells s b := not_exists.1 spelt
    exact .inr (.inr ⟨other, flagOf?_of_other other⟩)

/-- **How truth values are read.** A text is recognized by folding it, and its value is read in
title case. -/
theorem flagOf?_eq (s : String) : flagOf? s =
    if folded (trim s.toList) ∈ [wordOf true, wordOf false] then
      match valueOf? (titled (trim s.toList)) with
      | some b => .ok (some b)
      | none => .error ⟨s⟩
    else .ok none := by
  have word {b : Bool} (own : Spells s b) :
      folded (trim s.toList) ∈ [wordOf true, wordOf false] := by
    rw [own]
    cases b <;> decide
  rcases flagOf?_cases s with ⟨b, own, right, read⟩ | ⟨wrong, read⟩ | ⟨other, read⟩
  · have short : '\u017F' ∉ trim s.toList := fun long => right ⟨⟨b, own⟩, long⟩
    rw [read, if_pos (word own), own.valueOf?_eq]
    simp [short]
  · obtain ⟨⟨b, own⟩, long⟩ := wrong
    rw [read, if_pos (word own), own.valueOf?_eq]
    simp [long]
  · have none : folded (trim s.toList) ∉ [wordOf true, wordOf false] := by
      simpa using ⟨other true, other false⟩
    rw [read, if_neg none]

/-! ## Meanings -/

/-- What a text means as a setting: the truth value that it spells, or itself. -/
inductive Means (s : String) : Datum → Prop where
  | flag {b : Bool} : Spells s b → Means s (.bool b)
  | text : (∀ b, ¬ Spells s b) → Means s (.string s)

theorem exists_means (s : String) : ∃ d, Means s d := by
  by_cases spelt : ∃ b, Spells s b
  · obtain ⟨b, own⟩ := spelt
    exact ⟨_, .flag own⟩
  · exact ⟨_, .text (not_exists.1 spelt)⟩

theorem Means.unique {s : String} {d d' : Datum} (h : Means s d) (h' : Means s d') : d = d' := by
  cases h with
  | flag own =>
    cases h' with
    | flag own' => rw [own.unique own']
    | text other => exact absurd own (other _)
  | text other =>
    cases h' with
    | flag own => exact absurd own (other _)
    | text _ => rfl

/-- A text is read as what it means, unless it is misspelt. -/
theorem parseFlag_eq_ok_iff {s : String} {d : Datum} :
    parseFlag (.string s) = .ok d ↔ ¬ Misspells s ∧ Means s d := by
  have unique {own : Datum} (means : Means s own) (right : ¬ Misspells s) :
      own = d ↔ ¬ Misspells s ∧ Means s d :=
    ⟨fun same => ⟨right, same ▸ means⟩, fun h => means.unique h.2⟩
  rcases flagOf?_cases s with ⟨b, own, right, read⟩ | ⟨wrong, read⟩ | ⟨other, read⟩
  · simp only [parseFlag, read, Except.ok.injEq]
    exact unique (.flag own) right
  · simp [parseFlag, read, wrong]
  · simp only [parseFlag, read, Except.ok.injEq]
    exact unique (.text other) fun ⟨⟨b, own⟩, _⟩ => other b own

/-! ## Settings -/

/-- The setting of a text beside its built-in text. -/
inductive Reads (raw builtin : String) : Setting → Prop where
  | flag {b : Bool} {default : Datum} : Spells raw b → Means builtin default →
      Reads raw builtin (.flag b default)
  | text {default : Datum} : (∀ b, ¬ Spells raw b) → Means builtin default →
      Reads raw builtin (.text raw default)

/-- The built-in texts are not misspelt. -/
theorem not_misspells_builtin : ∀ entry ∈ builtins, ¬ Misspells entry.2 := by
  have short : ∀ entry ∈ builtins, '\u017F' ∉ trim entry.2.toList := by decide +kernel
  exact fun entry mem wrong => short entry mem wrong.2

section Readings

variable {raw builtin : String} {setting setting' : Setting}

theorem exists_reads (raw builtin : String) : ∃ setting, Reads raw builtin setting := by
  obtain ⟨default, means⟩ := exists_means builtin
  by_cases spelt : ∃ b, Spells raw b
  · obtain ⟨b, own⟩ := spelt
    exact ⟨_, .flag own means⟩
  · exact ⟨_, .text (not_exists.1 spelt) means⟩

theorem Reads.unique (h : Reads raw builtin setting) (h' : Reads raw builtin setting') :
    setting = setting' := by
  cases h with
  | flag own means =>
    cases h' with
    | flag own' means' => rw [own.unique own', means.unique means']
    | text other _ => exact absurd own (other _)
  | text other means =>
    cases h' with
    | flag own _ => exact absurd own (other _)
    | text _ means' => rw [means.unique means']

/-- A setting is what its text makes of it, unless that is misspelt. -/
theorem ofText_eq_ok_iff (right : ¬ Misspells builtin) :
    Setting.ofText raw builtin = .ok setting ↔ ¬ Misspells raw ∧ Reads raw builtin setting := by
  obtain ⟨default, means⟩ := exists_means builtin
  have read := parseFlag_eq_ok_iff.2 ⟨right, means⟩
  have unique {own : Setting} (reads : Reads raw builtin own) (fine : ¬ Misspells raw) :
      own = setting ↔ ¬ Misspells raw ∧ Reads raw builtin setting :=
    ⟨fun same => ⟨fine, same ▸ reads⟩, fun h => reads.unique h.2⟩
  rcases flagOf?_cases raw with ⟨b, own, fine, flag⟩ | ⟨wrong, flag⟩ | ⟨other, flag⟩
  · simp only [Setting.ofText, read, flag, Except.ok.injEq]
    exact unique (.flag own means) fine
  · simp [Setting.ofText, read, flag, wrong]
  · simp only [Setting.ofText, read, flag, Except.ok.injEq]
    exact unique (.text other means) fun ⟨⟨b, own⟩, _⟩ => other b own

end Readings

/-- The setting of a name and its built-in text, under some bindings. -/
def readEntry (bindings : List EnvFile.Binding) :
    String × String → Except FlagFault (String × Setting)
  | (name, builtin) =>
    match Setting.ofText (rawText bindings name builtin) builtin with
    | .ok setting => .ok (name, setting)
    | .error fault => .error fault

/-- The settings under some bindings, in the order of their names. -/
def loadBindings (bindings : List EnvFile.Binding) : Except FlagFault (List (String × Setting)) :=
  builtins.mapM (readEntry bindings)

theorem load_eq (envFile : Option String) :
    load envFile = loadBindings ((envFile.map EnvFile.read).getD []) := rfl

/-- The named setting is the one that the text of its name makes. -/
def IsNamed (bindings : List EnvFile.Binding) (entry : String × String)
    (named : String × Setting) : Prop :=
  named.1 = entry.1 ∧ Reads (rawText bindings entry.1 entry.2) entry.2 named.2

/-- There is one setting for each name. -/
theorem existsUnique_settings (bindings : List EnvFile.Binding) :
    ∃! settings, List.Forall₂ (IsNamed bindings) builtins settings := by
  have named : ∀ entry, ∃ own, IsNamed bindings entry own := by
    intro entry
    obtain ⟨setting, reads⟩ := exists_reads (rawText bindings entry.1 entry.2) entry.2
    exact ⟨(entry.1, setting), rfl, reads⟩
  choose own isNamed using named
  have functional : Relator.RightUnique (IsNamed bindings) := by
    rintro entry ⟨name, setting⟩ ⟨name', setting'⟩ ⟨rfl, reads⟩ ⟨rfl, reads'⟩
    exact congrArg (Prod.mk entry.1) (reads.unique reads')
  refine ⟨builtins.map own, ?_, fun settings all => ?_⟩
  · exact List.forall₂_map_right_iff.2 (List.forall₂_same.2 fun entry _ => isNamed entry)
  · exact functional.forall₂ all
      (List.forall₂_map_right_iff.2 (List.forall₂_same.2 fun entry _ => isNamed entry))

theorem readEntry_eq_ok_iff {bindings : List EnvFile.Binding} {entry : String × String}
    {named : String × Setting} (right : ¬ Misspells entry.2) :
    readEntry bindings entry = .ok named ↔
      ¬ Misspells (rawText bindings entry.1 entry.2) ∧ IsNamed bindings entry named := by
  obtain ⟨name, builtin⟩ := entry
  obtain ⟨name', setting⟩ := named
  have own : Setting.ofText (rawText bindings name builtin) builtin = .ok setting ↔ _ :=
    ofText_eq_ok_iff right
  rw [readEntry, IsNamed]
  cases made : Setting.ofText (rawText bindings name builtin) builtin with
  | error fault =>
    rw [made] at own
    refine iff_of_false (by rintro ⟨⟩) ?_
    rintro ⟨fine, -, reads⟩
    cases own.2 ⟨fine, reads⟩
  | ok setting' =>
    rw [made, Except.ok.injEq] at own
    rw [Except.ok.injEq, Prod.mk.injEq, own]
    constructor
    · rintro ⟨same, fine, reads⟩
      exact ⟨fine, same.symm, reads⟩
    · rintro ⟨fine, same, reads⟩
      exact ⟨same.symm, fine, reads⟩

/-- The settings are loaded one by one. -/
theorem loadBindings_eq_ok_iff {bindings : List EnvFile.Binding}
    {settings : List (String × Setting)} :
    loadBindings bindings = .ok settings ↔
      (∀ entry ∈ builtins, ¬ Misspells (rawText bindings entry.1 entry.2)) ∧
        List.Forall₂ (IsNamed bindings) builtins settings := by
  have right := not_misspells_builtin
  rw [loadBindings, mapM_eq_ok_iff, ← List.forall₂_and_left]
  constructor
  · intro all
    refine (List.forall₂_and_left builtins settings).2 ⟨right, all⟩ |>.imp ?_
    rintro entry named ⟨fine, own⟩
    exact (readEntry_eq_ok_iff fine).1 own
  · intro all
    refine (List.forall₂_and_left builtins settings).2 ⟨right, all⟩ |>.imp ?_
    rintro entry named ⟨fine, own⟩
    exact (readEntry_eq_ok_iff fine).2 own

/-- **Which settings are loaded.** Each text means a truth value or itself, and is read so unless it
is misspelt. Under any bindings there is one setting for each of the names: its text is the bound
one, or the built-in one where none is bound, and its default is what the built-in text means. These
are the settings that are loaded, unless one of the texts is misspelt, and then there are none. An
environment file is loaded with the bindings that are read from it. -/
theorem settings_load_iff (s : String) (bindings : List EnvFile.Binding)
    (envFile : Option String) :
    (∃! d, Means s d) ∧
    (∀ d, parseFlag (.string s) = .ok d ↔ ¬ Misspells s ∧ Means s d) ∧
    (∃! settings, List.Forall₂ (IsNamed bindings) builtins settings) ∧
    (∀ settings, loadBindings bindings = .ok settings ↔
      (∀ entry ∈ builtins, ¬ Misspells (rawText bindings entry.1 entry.2)) ∧
        List.Forall₂ (IsNamed bindings) builtins settings) ∧
    load envFile = loadBindings ((envFile.map EnvFile.read).getD []) := by
  refine ⟨?_, fun d => parseFlag_eq_ok_iff, existsUnique_settings bindings, fun settings => ?_,
    load_eq envFile⟩
  · obtain ⟨d, means⟩ := exists_means s
    exact ⟨d, means, fun d' means' => means'.unique means⟩
  · exact loadBindings_eq_ok_iff

/-- Not every text can be read, nor every environment file: here is the word false with a long s. -/
theorem not_loads_long_s :
    (¬ ∀ s, ∃ d, Means s d ∧ parseFlag (.string s) = .ok d) ∧
      ¬ ∀ envFile, ∃ settings, load envFile = .ok settings := by
  constructor
  · intro all
    obtain ⟨d, -, read⟩ := all "fal\u017fe"
    have spells : Spells "fal\u017fe" false := by
      rw [Spells]
      decide +kernel
    exact (parseFlag_eq_ok_iff.1 read).1 ⟨⟨false, spells⟩, by decide⟩
  · intro all
    obtain ⟨settings, loaded⟩ := all (some "LOG_FILE_OUTPUT=fal\u017fe\n")
    have refused : (load (some "LOG_FILE_OUTPUT=fal\u017fe\n")).isOk = false := by decide +kernel
    rw [loaded] at refused
    cases refused

end LedgerGateway.Settings
