import LedgerGateway.Proofs.IntegerTexts
import LedgerGateway.Proofs.Precedence
import LedgerGateway.Proofs.ReportedFaults
import LedgerGateway.Proofs.ShortestDigits

/-!
# Ports that are taken for what they are

A port is taken exactly if the value that is given for it is this very integer: as an integer, as a
floating point number of the same size, or as a text that spells it. Every other value should be
refused with a report. Texts are always treated so. Of the other values three kinds are not: a
truth value stands for one, a number loses its fraction, and an infinite one breaks the check off,
as does a value that cannot be shown in the report, for which the room is given.

* `Exactly` — the integer that a value is; `Denotes.exactly_or_inexact`.
* `Misread` — the values that are taken for another port, or break the check off.
* `exact_ports` — what is taken exactly, of tables and of the environment.
-/

namespace LedgerGateway.Decimal

open Ratio (le_floor_iff)

/-- The rational number that a finite number is. -/
def Binary64.value? : Binary64 → Option ℚ
  | .finite negative mantissa exponent =>
    some (if negative then -(mantissa * (2 : ℚ) ^ exponent) else mantissa * (2 : ℚ) ^ exponent)
  | _ => none

/-- A ratio that is a natural number has it for its whole part. -/
theorem Ratio.floor_of_value {r : Ratio} (positive : 0 < r.den) {k : ℕ} (h : r.value = k) :
    r.floor = k := by
  apply Nat.le_antisymm
  · have low := (le_floor_iff positive).1 (Nat.le_refl r.floor)
    rw [h] at low
    exact_mod_cast low
  · rw [le_floor_iff positive, h]

/-- A number that is an integer stays what it is when its fraction is dropped. -/
theorem Binary64.truncate?_of_value {x : Binary64} {n : ℤ} (h : x.value? = some (n : ℚ)) :
    x.truncate? = some n := by
  cases x with
  | infinite => cases h
  | nan => cases h
  | finite negative mantissa exponent =>
    have den := den_magnitude_pos mantissa exponent
    have size := value_magnitude mantissa exponent
    have positive := Ratio.value_nonneg (magnitude mantissa exponent)
    have same := Option.some.inj h
    rw [← size] at same
    have floor : (magnitude mantissa exponent).floor = n.natAbs := by
      apply Ratio.floor_of_value den
      rw [Nat.cast_natAbs, Int.cast_abs, ← same]
      split
      · rw [abs_neg, abs_of_nonneg positive]
      · rw [abs_of_nonneg positive]
    rw [truncate?, floor, signed, Option.some.injEq]
    cases negative with
    | true =>
      have below : (n : ℚ) ≤ 0 := by
        rw [← same]
        simpa using positive
      have : n ≤ 0 := by exact_mod_cast below
      simp only [if_true]
      omega
    | false =>
      have above : (0 : ℚ) ≤ n := by
        rw [← same]
        simpa using positive
      have : 0 ≤ n := by exact_mod_cast above
      simp only [Bool.false_eq_true, if_false]
      omega

end LedgerGateway.Decimal

namespace LedgerGateway.Config

open Decimal (SpellsInteger readInt_eq_some_iff Binary64)

/-! ## Values -/

/-- The value is the integer: as an integer, as a number of the same size, or as a text that spells
it. -/
inductive Exactly : Datum → Int → Prop where
  | int (n : Int) : Exactly (.int n) n
  | float {x : Binary64} {n : Int} : x.value? = some (n : ℚ) → Exactly (.float x) n
  | text {s : String} {n : Int} : SpellsInteger s n → Exactly (.string s) n

/-- The value stands for the integer without being it: it is a truth value, or a number with a
fraction. -/
inductive Inexact : Datum → Int → Prop where
  | yes : Inexact (.bool true) 1
  | no : Inexact (.bool false) 0
  | fraction {x : Binary64} {n : Int} : x.truncate? = some n → x.value? ≠ some (n : ℚ) →
      Inexact (.float x) n

/-- What a value is, it stands for as well. -/
theorem Exactly.denotes {v : Datum} {n : Int} (h : Exactly v n) : Denotes v n := by
  cases h with
  | int => exact .int n
  | float same => exact .float (Binary64.truncate?_of_value same)
  | text spells => exact .text (readInt_eq_some_iff.2 spells)

theorem Inexact.denotes {v : Datum} {n : Int} (h : Inexact v n) : Denotes v n := by
  cases h with
  | yes => exact .yes
  | no => exact .no
  | fraction dropped _ => exact .float dropped

theorem Denotes.exactly_or_inexact {v : Datum} {n : Int} (h : Denotes v n) :
    Exactly v n ∨ Inexact v n := by
  cases h with
  | int => exact .inl (.int n)
  | yes => exact .inr .yes
  | no => exact .inr .no
  | @float x _ dropped =>
    by_cases same : x.value? = some (n : ℚ)
    · exact .inl (.float same)
    · exact .inr (.fraction dropped same)
  | text read => exact .inl (.text (readInt_eq_some_iff.1 read))

theorem Inexact.not_exactly {v : Datum} {n : Int} (h : Inexact v n) : ¬ Exactly v n := by
  intro exactly
  cases h with
  | yes => cases exactly
  | no => cases exactly
  | fraction _ other =>
    cases exactly with
    | float same => exact other same

/-- The value is taken for a port that it is not, or it breaks the check off. -/
inductive Misread (depth : Nat) (v : Datum) : Prop where
  | inexact {n : Int} : Inexact v n → 1 ≤ n → n ≤ 65535 → Misread depth v
  | unreportable : Unreportable depth v → Misread depth v

/-- A value that is not misread is the port that it is read as. -/
theorem IsPort.exactly {depth : Nat} {v : Datum} {n : Int} (h : IsPort v n)
    (fine : ¬ Misread depth v) : Exactly v n := by
  obtain ⟨own, low, high⟩ := h
  rcases own.exactly_or_inexact with exactly | inexact
  · exact exactly
  · exact absurd (.inexact inexact low high) fine

/-- A text is never misread. -/
theorem not_misread_text (depth : Nat) (s : String) : ¬ Misread depth (.string s) := by
  intro h
  cases h with
  | inexact inexact => cases inexact
  | unreportable unreportable => exact not_unreportable_text depth s unreportable

/-! ## Configurations -/

/-- The result of reading a configuration for whose port the value is given: the port is the value,
and from 1 to 65535, or the configuration is refused with a report. -/
def TakenExactly (v : Datum) (r : Except Fault NodeConfig) : Prop :=
  (∃ c, r = .ok c ∧ 1 ≤ c.http.port ∧ c.http.port ≤ 65535 ∧ Exactly v c.http.port) ∨
    ∃ fault, r = .error fault ∧ fault.isReported = true

/-- The sections beside the one of the transport are tables, or there are none. -/
def OthersTabled (entries : List (String × Datum)) : Prop :=
  ∀ name ∈ ["node", "validator"], ∃ own, sectionOf entries name = .table own

theorem OthersTabled.sections {entries values : List (String × Datum)}
    (h : OthersTabled entries) (transport : Transport (sectionOf entries "rpc") values) :
    ∃ s, Sections.Of entries s ∧ s.transport = values := by
  obtain ⟨node, isNode⟩ := h "node" (by simp)
  obtain ⟨validator, isValidator⟩ := h "validator" (by simp)
  exact ⟨⟨node, values, validator⟩, ⟨isNode, transport, isValidator⟩, rfl⟩

theorem Transport.unique {v : Datum} {values values' : List (String × Datum)}
    (h : Transport v values) (h' : Transport v values') : values = values' := by
  have read := transportValues_eq_ok_iff.2 h
  have read' := transportValues_eq_ok_iff.2 h'
  exact Except.ok.inj (read.symm.trans read')

section Table

variable {depth : Nat} {d : Defaults} {entries values : List (String × Datum)}

/-- A table whose other sections are tables is read with every port that is given in it. -/
theorem ofDatum_of_isPort {port : Int} (transport : Transport (sectionOf entries "rpc") values)
    (others : OthersTabled entries) (own : IsPort (givenPort d values) port) :
    ∃ c, ofDatum depth (.table entries) d = .ok c ∧ c.http.port = port := by
  obtain ⟨s, sections, rfl⟩ := others.sections transport
  exact ⟨s.config d port, ofDatum_eq_ok_iff.2 ⟨s, port, sections, own, rfl⟩, rfl⟩

theorem isPort_of_ofDatum {c : NodeConfig} (transport : Transport (sectionOf entries "rpc") values)
    (h : ofDatum depth (.table entries) d = .ok c) :
    OthersTabled entries ∧ IsPort (givenPort d values) c.http.port := by
  obtain ⟨s, port, sections, own, rfl⟩ := ofDatum_eq_ok_iff.1 h
  obtain rfl := transport.unique sections.transport
  refine ⟨?_, own⟩
  intro name mem
  rcases List.mem_pair.1 mem with rfl | rfl
  · exact ⟨_, sections.node⟩
  · exact ⟨_, sections.validator⟩

/-- A value that is no port is refused with a report, unless it cannot be reported on. -/
theorem reported_of_no_port (transport : Transport (sectionOf entries "rpc") values)
    (fine : ¬ Unreportable depth (givenPort d values)) (none : ∀ n, ¬ IsPort (givenPort d values) n) :
    ∃ fault, ofDatum depth (.table entries) d = .error fault ∧ fault.isReported = true := by
  have whole : ¬ BreaksOff depth d entries := by
    intro breaks
    cases breaks with
    | unpaired unpaired =>
      obtain ⟨pairs, read, -⟩ := transport
      have steps := reported_sectionPairs_iff.not.2 (not_not_intro unpaired)
      rw [sectionPairs_eq_ok_iff.2 read] at steps
      exact steps (reported_ok pairs)
    | port transport' unreportable =>
      obtain rfl := transport.unique transport'
      exact fine unreportable
    | noTable transport' own =>
      obtain rfl := transport.unique transport'
      exact none _ own
  cases read : ofDatum depth (.table entries) d with
  | ok c => exact absurd (isPort_of_ofDatum transport read).2 (none _)
  | error fault => exact ⟨fault, rfl, reported_ofDatum_iff.2 whole fault read⟩

/-- The port of a table is taken exactly or refused, unless it is misread, or another section of the
table breaks the reading off behind it. -/
theorem takenExactly_table_iff (transport : Transport (sectionOf entries "rpc") values) :
    TakenExactly (givenPort d values) (ofDatum depth (.table entries) d) ↔
      ¬ Misread depth (givenPort d values) ∧
        ((∃ port, IsPort (givenPort d values) port) → OthersTabled entries) := by
  constructor
  · rintro (⟨c, read, -, -, exactly⟩ | ⟨fault, refused, reported⟩)
    · obtain ⟨others, own⟩ := isPort_of_ofDatum transport read
      refine ⟨?_, fun _ => others⟩
      intro misread
      cases misread with
      | inexact inexact =>
        obtain rfl := inexact.denotes.unique own.1
        exact inexact.not_exactly exactly
      | unreportable unreportable =>
        have reads : readPort depth "" _ = .ok _ := readPort_eq_ok_iff.2 own
        have stops : ¬ Reported (readPort depth "" _) :=
          reported_readPort_iff.not.2 (not_not_intro unreportable)
        rw [reads] at stops
        exact stops (reported_ok _)
    · have whole : ¬ BreaksOff depth d entries := by
        rw [← reported_ofDatum_iff, refused, reported_error]
        exact reported
      have noPort (others : OthersTabled entries) (port : Int) :
          ¬ IsPort (givenPort d values) port := by
        intro own
        obtain ⟨c, read, -⟩ := ofDatum_of_isPort transport others own
        rw [refused] at read
        cases read
      have tabled {port : Int} (own : IsPort (givenPort d values) port) : OthersTabled entries := by
        intro name mem
        by_contra none
        exact whole (.noTable transport own mem (not_exists.1 none))
      constructor
      · intro misread
        cases misread with
        | inexact inexact low high =>
          have own : IsPort (givenPort d values) _ := ⟨inexact.denotes, low, high⟩
          exact noPort (tabled own) _ own
        | unreportable unreportable => exact whole (.port transport unreportable)
      · rintro ⟨port, own⟩
        exact tabled own
  · rintro ⟨fine, tabled⟩
    by_cases port : ∃ n, IsPort (givenPort d values) n
    · obtain ⟨n, own⟩ := port
      obtain ⟨c, read, rfl⟩ := ofDatum_of_isPort transport (tabled ⟨n, own⟩) own
      exact .inl ⟨c, read, own.2.1, own.2.2, own.exactly fine⟩
    · right
      apply reported_of_no_port transport
      · intro unreportable
        exact fine (.unreportable unreportable)
      · exact not_exists.1 port

end Table

/-- The port of the environment is taken exactly or refused. -/
theorem takenExactly_env {env : List (String × String)} {s : String} (depth : Nat)
    (c : NodeConfig) (set : setVariable? env "SETH_RPC_PORT" = some s) :
    TakenExactly (.string s) (applyEnv depth env c) := by
  cases read : applyEnv depth env c with
  | ok c' =>
    have own := (applyEnv_eq_ok_iff.1 read).named s set
    exact .inl ⟨c', rfl, own.2.1, own.2.2, own.exactly (not_misread_text depth s)⟩
  | error fault => exact .inr ⟨fault, rfl, reported_applyEnv depth env c fault read⟩

/-- **Which ports are taken exactly.** Of a table with a section of the transport the value that is
given for the port is taken exactly or refused with a report, unless it is misread; behind a port
that is read, a section that is no table breaks the reading off. Of the environment every port is
taken exactly or refused. -/
theorem exact_ports (depth : Nat) (d : Defaults) :
    (∀ entries values, Transport (sectionOf entries "rpc") values →
      (TakenExactly (givenPort d values) (ofDatum depth (.table entries) d) ↔
        ¬ Misread depth (givenPort d values) ∧
          ((∃ port, IsPort (givenPort d values) port) → OthersTabled entries))) ∧
    ∀ env c s, setVariable? env "SETH_RPC_PORT" = some s →
      TakenExactly (.string s) (applyEnv depth env c) := by
  constructor
  · intro entries values transport
    exact takenExactly_table_iff transport
  · intro env c s set
    exact takenExactly_env depth c set

/-- The sections of a configuration with nothing but a port. -/
def portAlone (v : Datum) : List (String × Datum) :=
  [("rpc", .table [("http", .table [("port", v)])])]

/-- A misread port is not taken exactly, whatever else there is. -/
theorem not_takenExactly_portAlone {depth : Nat} {v : Datum} (misread : Misread depth v) :
    ¬ TakenExactly v (ofDatum depth (.table (portAlone v))) := by
  have transport : Transport (sectionOf (portAlone v) "rpc") [("port", v)] :=
    transportValues_eq_ok_iff.1 rfl
  intro taken
  exact ((takenExactly_table_iff transport).1 taken).1 misread

/-- Eighty and a half is taken for eighty and a truth value for one; an infinite port is not
reported on. -/
theorem not_takenExactly_fraction :
    ¬ TakenExactly (.float (.finite false 161 (-1)))
        (ofDatum 980 (.table (portAlone (.float (.finite false 161 (-1)))))) ∧
      ¬ TakenExactly (.bool true) (ofDatum 980 (.table (portAlone (.bool true)))) ∧
      ¬ TakenExactly (.float (.infinite false))
        (ofDatum 980 (.table (portAlone (.float (.infinite false))))) := by
  refine ⟨not_takenExactly_portAlone ?_, not_takenExactly_portAlone ?_,
    not_takenExactly_portAlone ?_⟩
  · have half : (Binary64.finite false 161 (-1)).value? ≠ some ((80 : ℤ) : ℚ) := by
      rw [Binary64.value?]
      norm_num
    exact .inexact (.fraction (n := 80) rfl half) (by decide) (by decide)
  · exact .inexact .yes (by decide) (by decide)
  · exact .unreportable (.infinite false)

end LedgerGateway.Config
