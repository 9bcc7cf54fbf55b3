import LedgerGateway.Association
import LedgerGateway.Log.Level
import LedgerGateway.Proofs.SpeltWords
import LedgerGateway.Text.Capitals
import Mathlib.Data.List.Infix
import Mathlib.Data.Option.Basic

/-!
# Which level a text names

A text names a level if it is the name of the level in capitals, and any other text stands for the
level of information. It is enough to take the capitals of the letters of ASCII and of four more
characters: nothing else has capitals that make up a name. Two names in capitals are taken by things
that are no levels; the texts that spell them are refused.

* `Names` — the level of a text, `Reserved` — the texts that are refused.
* `levelWord_eq_iff` — few capitals are enough.
* `levelOf_eq_ok_iff`, `levelOf_eq_error_iff` — the level that is found, and when none is.
-/

namespace LedgerGateway.Log

open Text (capitalOf upper)

/-! ## Names -/

/-- The text in capitals. -/
def inCapitals (s : String) : String := String.ofList (upper s.toList)

/-- The level that a text names, or else the one of information. -/
inductive Names (s : String) : Int → Prop where
  | named {level : Int} : (inCapitals s, level) ∈ levelNames → Names s level
  | unknown : (∀ e ∈ levelNames, e.1 ≠ inCapitals s) → Names s infoLevel

/-- The names of things that are no levels. -/
def reservedNames : List String := ["BASIC_FORMAT", "_STYLES"]

/-- The text spells the name of something that is no level. -/
def Reserved (s : String) : Prop := inCapitals s ∈ reservedNames

/-- All names that make a difference. -/
def knownNames : List String := levelNames.map Prod.fst ++ reservedNames

/-- The letters of these names. -/
def nameLetters : List Char := "ABCDEFGILMNORSTUWY_".toList

/-- The texts in these letters that are the capitals of single characters. -/
def longCapitalsInLetters : List (List Char) :=
  ["SS".toList, "FF".toList, "FI".toList, "FL".toList, "FFI".toList, "FFL".toList]

/-- The code points of the other characters whose capitals make up parts of names: the dotless i,
the long s, and the two ligatures of s and t. -/
def furtherLetters : List Nat := [0x131, 0x17F, 0xFB05, 0xFB06]

/-- A character of ASCII, or one of the four. -/
def Plain (c : Char) : Prop := c.toNat < 0x80 ∨ c.toNat ∈ furtherLetters

/-! ## Capitals -/

theorem mem_nameLetters {name : String} (known : name ∈ knownNames) :
    ∀ d ∈ name.toList, d ∈ nameLetters := by
  have all : ∀ name ∈ knownNames, ∀ d ∈ name.toList, d ∈ nameLetters := by decide +kernel
  exact all name known

theorem Plain.of_letter {c : Char} (h : c ∈ nameLetters) : Plain c := by
  have ascii : ∀ d ∈ nameLetters, d.toNat < 0x80 := by decide +kernel
  exact .inl (ascii c h)

theorem capitals_plain {c : Char} (h : Plain c) : capitals c = capitalOf c := by
  rcases h with ascii | further
  · exact Text.forall_ascii (p := fun c => capitals c = capitalOf c) (by decide +kernel) ascii
  · have all : ∀ n ∈ furtherLetters, capitals (Char.ofNat n) = capitalOf (Char.ofNat n) := by
      decide +kernel
    have own := all _ further
    rwa [Char.ofNat_toNat] at own

/-- Any other character is taken for its own capital. -/
theorem capitals_other {c : Char} (h : ¬ Plain c) : capitals c = [c] := by
  obtain ⟨high, other⟩ := not_or.1 h
  unfold capitals
  split
  case h_5 =>
    unfold Char.toUpper
    split
    · next small =>
      have last : c.val.toNat ≤ 'z'.val.toNat := UInt32.le_iff_toNat_le.1 small.2
      exact absurd (Nat.lt_of_le_of_lt last (by decide)) high
    · rfl
  all_goals exact absurd (by decide) other

theorem capitalLetter_not_mem {c : Char} (h : ¬ Plain c) :
    Text.capitalLetter c ∉ nameLetters := by
  obtain ⟨high, other⟩ := not_or.1 h
  have nul : '\x00' ∉ nameLetters := by decide +kernel
  have low : ∀ d ∈ nameLetters, d.toNat < 0x80 := by decide +kernel
  unfold Text.capitalLetter
  split
  · next n found =>
    have above : 0x80 ≤ n := by
      rcases (Option.orElse_eq_some _ _ _).1 found with own | ⟨-, own⟩
      · have all : ∀ e ∈ Text.furtherCapitals, e.1 ∈ furtherLetters ∨ 0x80 ≤ e.2 := by
          decide +kernel
        exact (all _ (Association.mem_of_lookup own)).resolve_left other
      · obtain ⟨r, mem, own⟩ := List.exists_of_findSome?_eq_some own
        have all : ∀ r ∈ Text.capitalRuns, 0x80 ≤ r.low ∨ r.small + (r.high - r.low) < 0x80 := by
          decide +kernel
        unfold Text.CapitalRun.capital? at own
        split at own
        · next range =>
          obtain rfl := Option.some.inj own
          rcases all r mem with above | ascii
          · omega
          · omega
        · cases own
    refine Text.ofNat_not_mem nul fun d letter => ?_
    have := low d letter
    omega
  · exact fun letter => h (.of_letter letter)

/-- The capitals of any other character are not in these letters, or are one of a few texts. -/
theorem capitalOf_cases {c : Char} (h : ¬ Plain c) :
    (∃ d ∈ capitalOf c, d ∉ nameLetters) ∨ capitalOf c ∈ longCapitalsInLetters := by
  unfold capitalOf
  split
  · next ns found =>
    have all : ∀ e ∈ Text.longCapitals, e.1 ∈ furtherLetters ∨
        (∃ d ∈ e.2.map Char.ofNat, d ∉ nameLetters) ∨
        e.2.map Char.ofNat ∈ longCapitalsInLetters := by
      decide +kernel
    exact (all _ (Association.mem_of_lookup found)).resolve_left fun further => h (.inr further)
  · exact .inl ⟨_, List.mem_singleton_self _, capitalLetter_not_mem h⟩

/-! ## Levels -/

/-- The capitals of another character do not stand within a name. -/
theorem capitals_apart {name : String} (known : name ∈ knownNames) {c : Char} (other : ¬ Plain c) :
    ¬ capitals c <:+: name.toList := by
  intro part
  rw [capitals_other other] at part
  exact other (.of_letter (mem_nameLetters known c (part.subset List.mem_cons_self)))

theorem capitalOf_apart {name : String} (known : name ∈ knownNames) {c : Char} (other : ¬ Plain c) :
    ¬ capitalOf c <:+: name.toList := by
  intro part
  rcases capitalOf_cases other with ⟨d, mem, foreign⟩ | long
  · exact foreign (mem_nameLetters known d (part.subset mem))
  · have none_ : ∀ name ∈ knownNames, ∀ t ∈ longCapitalsInLetters, ¬ t <:+: name.toList := by
      decide +kernel
    exact none_ name known _ long part

/-- **Few capitals are enough.** A text that becomes a name by the few capitals that are known here
becomes it by all capitals, and the other way round. -/
theorem levelWord_eq_iff (s : String) {name : String} (known : name ∈ knownNames) :
    String.ofList (s.toList.flatMap capitals) = name ↔ inCapitals s = name := by
  have words : s.toList.flatMap capitals = name.toList ↔ s.toList.flatMap capitalOf = name.toList :=
    Text.flatMap_eq_iff (fun _ => capitals_plain) fun c other =>
      ⟨capitals_apart known other, capitalOf_apart known other⟩
  rw [inCapitals, upper, ← String.toList_inj, ← String.toList_inj, String.toList_ofList,
    String.toList_ofList, words]

theorem lookup_congr {table : List (String × Int)} {a b : String}
    (same : ∀ e ∈ table, a = e.1 ↔ b = e.1) : table.lookup a = table.lookup b := by
  induction table with
  | nil => rfl
  | cons e rest ih =>
    obtain ⟨key, v⟩ := e
    obtain ⟨own, behind⟩ := List.forall_mem_cons.1 same
    have first : (a == key) = (b == key) := by
      rw [Bool.eq_iff_iff, beq_iff_eq, beq_iff_eq]
      exact own
    rw [List.lookup_cons, List.lookup_cons, first, ih behind]

/-- The level of a text, told by all capitals. -/
theorem levelOf_eq (s : String) : levelOf s =
    if inCapitals s = "BASIC_FORMAT" then .error .plainLayout
    else if inCapitals s = "_STYLES" then .error .layoutStyles
    else .ok ((levelNames.lookup (inCapitals s)).getD infoLevel) := by
  have level : levelNames.lookup (String.ofList (s.toList.flatMap capitals)) =
      levelNames.lookup (inCapitals s) := by
    refine lookup_congr fun e mem => levelWord_eq_iff s ?_
    exact List.mem_append_left _ (List.mem_map_of_mem mem)
  have plain := @levelWord_eq_iff s "BASIC_FORMAT" (by decide)
  have styles := @levelWord_eq_iff s "_STYLES" (by decide)
  simp only [levelOf, plain, styles, level, usualLevel]

theorem names_iff {s : String} {level : Int} :
    Names s level ↔ (levelNames.lookup (inCapitals s)).getD infoLevel = level := by
  constructor
  · intro h
    cases h with
    | named mem =>
      have all : ∀ e ∈ levelNames, levelNames.lookup e.1 = some e.2 := by decide
      rw [all _ mem]
      rfl
    | unknown none_ =>
      have absent : levelNames.lookup (inCapitals s) = none := by
        rw [List.lookup_eq_none_iff]
        intro e mem
        simpa using (none_ e mem).symm
      rw [absent]
      rfl
  · rintro rfl
    cases found : levelNames.lookup (inCapitals s) with
    | some level => exact .named (Association.mem_of_lookup found)
    | none =>
      rw [List.lookup_eq_none_iff] at found
      refine .unknown fun e mem same => ?_
      simpa [same] using found e mem

theorem levelOf_eq_ok_iff {s : String} {level : Int} :
    levelOf s = .ok level ↔ ¬ Reserved s ∧ Names s level := by
  rw [levelOf_eq, names_iff, Reserved, reservedNames]
  split
  · next plain => simp [plain]
  · next noPlain =>
    split
    · next styles => simp [styles]
    · next noStyles => simp [noPlain, noStyles]

theorem levelOf_eq_error_iff {s : String} : (∃ fault, levelOf s = .error fault) ↔ Reserved s := by
  constructor
  · rintro ⟨fault, failed⟩
    by_contra free
    have found := levelOf_eq_ok_iff.2 ⟨free, names_iff.2 rfl⟩
    rw [failed] at found
    cases found
  · intro reserved
    cases found : levelOf s with
    | error fault => exact ⟨fault, rfl⟩
    | ok level => exact absurd reserved (levelOf_eq_ok_iff.1 found).1

end LedgerGateway.Log
