import LedgerGateway.Proofs.PortValues
import Mathlib.Data.List.Forall2

/-!
# What the sections of a configuration hold

The sections are told without the steps that read them: which pairs of keys and values the section
of the transport stands for, which values of the transport these give, and what the configuration of
all three sections is. Beside what is read stands what breaks the reading off; everything else is
reported as a fault of the configuration.

* `Transport` — the values of the section of the transport, and `transportValues_eq_ok_iff`.
* `Sections` — the configuration of a table, and `ofDatum_eq_ok_iff`.
* `BreaksOff` — the tables that break the reading off, and `reported_ofDatum_iff`.
-/

namespace LedgerGateway.Config

/-! ## Pairs -/

/-- The datum stands for a pair of a key and a value. -/
def StandsFor (v : Datum) (p : Datum × Datum) : Prop :=
  elements? v = some [p.1, p.2] ∧ isHashable p.1

/-- The first element that stands for no pair is a sequence, though not one of two elements. -/
inductive MissesPair : List Datum → Prop where
  | here {v : Datum} {parts rest : List Datum} : elements? v = some parts → parts.length ≠ 2 →
      MissesPair (v :: rest)
  | behind {v : Datum} {p : Datum × Datum} {rest : List Datum} : StandsFor v p →
      MissesPair rest → MissesPair (v :: rest)

theorem readPair_cases (index : Nat) (v : Datum) :
    (∃ p, StandsFor v p ∧ readPair index v = .ok p) ∨
      (∃ parts, elements? v = some parts ∧ parts.length ≠ 2 ∧
        readPair index v = .error (.notPair index parts.length)) ∨
      (∃ fault, (∀ p, ¬ StandsFor v p) ∧ (∀ parts, elements? v = some parts → parts.length = 2) ∧
        readPair index v = .error (.shape fault)) := by
  unfold readPair StandsFor
  split
  · next none => exact .inr (.inr ⟨_, by simp [none], by simp [none], rfl⟩)
  · next key value two =>
    split
    · next hashable => exact .inl ⟨(key, value), ⟨two, hashable⟩, rfl⟩
    · next unhashable =>
      refine .inr (.inr ⟨_, ?_, by simp [two], rfl⟩)
      rintro p ⟨parts, hashable⟩
      obtain ⟨rfl, -⟩ : key = p.1 ∧ value = p.2 := by simpa [two] using parts
      exact unhashable hashable
  · next parts other some_ =>
    refine .inr (.inl ⟨parts, some_, ?_, rfl⟩)
    intro two
    obtain ⟨key, value, rfl⟩ := List.length_eq_two.1 two
    exact other key value rfl

theorem StandsFor.unique {v : Datum} {p q : Datum × Datum} (h : StandsFor v p)
    (h' : StandsFor v q) : p = q := by
  have same := Option.some.inj (h.1.symm.trans h'.1)
  simp only [List.cons.injEq, and_true] at same
  exact Prod.ext same.1 same.2

theorem readPair_eq_ok_iff {index : Nat} {v : Datum} {p : Datum × Datum} :
    readPair index v = .ok p ↔ StandsFor v p := by
  obtain ⟨q, own, read⟩ | ⟨parts, some_, notTwo, read⟩ | ⟨fault, none, -, read⟩ :=
    readPair_cases index v
  · rw [read, Except.ok.injEq]
    constructor
    · rintro rfl
      exact own
    · exact own.unique
  · refine iff_of_false (by simp [read]) ?_
    rintro ⟨two, -⟩
    obtain rfl := Option.some.inj (some_.symm.trans two)
    exact notTwo rfl
  · exact iff_of_false (by simp [read]) (none p)

theorem readPairs_eq_ok_iff {index : Nat} {items : List Datum} {pairs : List (Datum × Datum)} :
    readPairs index items = .ok pairs ↔ List.Forall₂ StandsFor items pairs := by
  induction items generalizing index pairs with
  | nil => simp [readPairs, eq_comm]
  | cons v rest ih =>
    rw [List.forall₂_cons_left_iff, readPairs]
    cases read : readPair index v with
    | error fault =>
      refine iff_of_false (by simp) ?_
      rintro ⟨p, -, own, -⟩
      rw [readPair_eq_ok_iff.2 own] at read
      cases read
    | ok p =>
      have own := readPair_eq_ok_iff.1 read
      dsimp only
      constructor
      · intro h
        cases others : readPairs (index + 1) rest with
        | error fault =>
          rw [others] at h
          cases h
        | ok more =>
          rw [others] at h
          obtain rfl := Except.ok.inj h
          exact ⟨p, more, own, ih.1 others, rfl⟩
      · rintro ⟨q, more, own', others, rfl⟩
        rw [ih.2 others, own.unique own']
        rfl

theorem reported_readPairs_iff {index : Nat} {items : List Datum} :
    Reported (readPairs index items) ↔ ¬ MissesPair items := by
  induction items generalizing index with
  | nil =>
    refine iff_of_true (reported_ok []) ?_
    intro misses
    cases misses
  | cons v rest ih =>
    rw [readPairs]
    obtain ⟨p, own, read⟩ | ⟨parts, some_, notTwo, read⟩ | ⟨fault, none, two, read⟩ :=
      readPair_cases index v
    · rw [read, reported_map, ih, not_iff_not]
      constructor
      · exact .behind own
      · intro misses
        cases misses with
        | here some_ notTwo =>
          obtain rfl := Option.some.inj (own.1.symm.trans some_)
          exact absurd rfl notTwo
        | behind _ others => exact others
    · rw [read]
      exact iff_of_false (by simp [Fault.isReported]) (not_not_intro (.here some_ notTwo))
    · rw [read]
      refine iff_of_true (by simp [Fault.isReported]) ?_
      intro misses
      cases misses with
      | here some_ notTwo => exact notTwo (two _ some_)
      | behind own => exact none _ own

/-! ## The section of the transport -/

/-- The section stands for the pairs: those of a table, those that the elements of a list stand for,
or none if it is an empty text. -/
inductive SectionPairs : Datum → List (Datum × Datum) → Prop where
  | table (entries : List (String × Datum)) :
      SectionPairs (.table entries) (entries.map fun e => (.string e.1, e.2))
  | list {items : List Datum} {pairs : List (Datum × Datum)} :
      List.Forall₂ StandsFor items pairs → SectionPairs (.list items) pairs
  | empty : SectionPairs (.string "") []

/-- The section is a sequence of something else than pairs. -/
inductive Unpaired : Datum → Prop where
  | text {s : String} : s ≠ "" → Unpaired (.string s)
  | list {items : List Datum} : MissesPair items → Unpaired (.list items)

/-- The characters of a text stand for no pairs. -/
theorem readPairs_chars {s : String} (some_ : s ≠ "") :
    readPairs 0 (s.toList.map fun c => .string (String.ofList [c])) = .error (.notPair 0 1) := by
  cases chars : s.toList with
  | nil => exact absurd (String.toList_eq_nil_iff.1 chars) some_
  | cons c rest => simp [readPairs, readPair, elements?]

theorem sectionPairs_eq_ok_iff {v : Datum} {pairs : List (Datum × Datum)} :
    sectionPairs v = .ok pairs ↔ SectionPairs v pairs := by
  constructor
  · intro h
    cases v with
    | table entries =>
      obtain rfl := Except.ok.inj h
      exact .table entries
    | list items => exact .list (readPairs_eq_ok_iff.1 h)
    | string s =>
      by_cases empty : s = ""
      · subst empty
        obtain rfl : [] = pairs := Except.ok.inj h
        exact .empty
      · rw [sectionPairs, readPairs_chars empty] at h
        cases h
    | _ => cases h
  · intro h
    cases h with
    | table => rfl
    | list own => exact readPairs_eq_ok_iff.2 own
    | empty => rfl

theorem reported_sectionPairs_iff {v : Datum} : Reported (sectionPairs v) ↔ ¬ Unpaired v := by
  have other (shape : ∀ s, v ≠ .string s) (shape' : ∀ items, v ≠ .list items) : ¬ Unpaired v := by
    intro unpaired
    cases unpaired with
    | text => exact shape _ rfl
    | list => exact shape' _ rfl
  cases v with
  | list items =>
    rw [sectionPairs, reported_readPairs_iff, not_iff_not]
    constructor
    · exact .list
    · intro unpaired
      cases unpaired with
      | list misses => exact misses
  | string s =>
    by_cases empty : s = ""
    · subst empty
      refine iff_of_true (reported_ok []) ?_
      intro unpaired
      cases unpaired with
      | text some_ => exact some_ rfl
    · rw [sectionPairs, readPairs_chars empty]
      exact iff_of_false (by simp [Fault.isReported]) (not_not_intro (.text empty))
  | table entries => exact iff_of_true (reported_ok _) (other (by simp) (by simp))
  | _ => exact iff_of_true ((reported_error _).2 rfl) (other (by simp) (by simp))

/-- The section of the transport gives the values: every pair of the section has the one key that is
known, and the last of them has a table for its value, in which every key is known. -/
def Transport (v : Datum) (values : List (String × Datum)) : Prop :=
  ∃ pairs, SectionPairs v pairs ∧ (∀ p ∈ pairs, p.1 = .string "http") ∧
    (pairs.map Prod.snd).getLast?.getD (.table []) = .table values ∧
    ∀ e ∈ values, e.1 ∈ httpNames

theorem checkKeys_cases (record : Record) {known : List String} (noSelf : "self" ∉ known)
    (keys : List String) :
    ((∀ k ∈ keys, k ∈ known) ∧ checkKeys record known keys = .ok ()) ∨
      ∃ fault, ¬ (∀ k ∈ keys, k ∈ known) ∧ checkKeys record known keys = .error (.shape fault) := by
  induction keys with
  | nil => exact .inl ⟨by simp, rfl⟩
  | cons key rest ih =>
    simp only [checkKeys, List.contains_eq_mem, decide_eq_true_eq, List.forall_mem_cons]
    by_cases self : key = "self"
    · rw [if_pos self]
      refine .inr ⟨_, ?_, rfl⟩
      rintro ⟨there, -⟩
      exact noSelf (self ▸ there)
    rw [if_neg self]
    by_cases there : key ∈ known
    · rw [if_pos there]
      simpa only [there, true_and] using ih
    · rw [if_neg there]
      exact .inr ⟨_, fun all => there all.1, rfl⟩

theorem httpValues_cases (v : Datum) :
    (∃ values, v = .table values ∧ (∀ e ∈ values, e.1 ∈ httpNames) ∧
        httpValues v = .ok values) ∨
      ∃ fault, (∀ values, v = .table values → ¬ ∀ e ∈ values, e.1 ∈ httpNames) ∧
        httpValues v = .error (.shape fault) := by
  cases v with
  | table entries =>
    rw [httpValues]
    obtain ⟨known, read⟩ | ⟨fault, unknown, read⟩ :=
      checkKeys_cases .http (show "self" ∉ httpNames by decide)
        (entries.map Prod.fst)
    · rw [List.forall_mem_map] at known
      refine .inl ⟨entries, rfl, known, ?_⟩
      rw [read]
      rfl
    · rw [List.forall_mem_map] at unknown
      refine .inr ⟨fault, ?_, ?_⟩
      · intro values same
        rwa [← Datum.table.inj same]
      · rw [read]
        rfl
  | _ => exact .inr ⟨_, by simp, rfl⟩

/-- Pairs that all have the one key are the texts with this key. -/
theorem filterMap_textKey?_eq {pairs : List (Datum × Datum)}
    (h : ∀ p ∈ pairs, p.1 = .string "http") :
    pairs.filterMap textKey? = (pairs.map Prod.snd).map (("http", ·)) := by
  induction pairs with
  | nil => rfl
  | cons p rest ih =>
    obtain ⟨key, v⟩ := p
    obtain rfl : key = .string "http" := h _ List.mem_cons_self
    rw [List.map_cons, List.map_cons, ← ih fun q mem => h q (by simp [mem])]
    rfl

/-- Of several values of the one key the last one counts. -/
theorem lookup_textValues {pairs : List (Datum × Datum)}
    (h : ∀ p ∈ pairs, p.1 = .string "http") :
    (textValues pairs).lookup "http" = (pairs.map Prod.snd).getLast? := by
  rw [textValues, Association.lookup_ofPairs, filterMap_textKey?_eq h, ← List.map_reverse,
    List.getLast?_eq_head?_reverse]
  cases (pairs.map Prod.snd).reverse <;> simp

theorem mem_keys_textValues {pairs : List (Datum × Datum)} {key : String} :
    key ∈ Association.keys (textValues pairs) ↔ ∃ v, (.string key, v) ∈ pairs := by
  rw [textValues, Association.mem_keys_ofPairs, Association.keys, List.mem_map]
  simp only [List.mem_filterMap]
  constructor
  · rintro ⟨⟨_, v⟩, ⟨p, mem, text⟩, rfl⟩
    unfold textKey? at text
    split at text
    · obtain ⟨rfl, rfl⟩ := Prod.mk.inj (Option.some.inj text)
      exact ⟨_, mem⟩
    · cases text
  · rintro ⟨v, mem⟩
    exact ⟨(key, v), ⟨_, mem, rfl⟩, rfl⟩

/-- The keys of the section pass if each of them is the one that is known. -/
theorem checkPairs_cases (pairs : List (Datum × Datum)) :
    ((∀ p ∈ pairs, p.1 = .string "http") ∧ checkPairs pairs = .ok ()) ∨
      ∃ fault, ¬ (∀ p ∈ pairs, p.1 = .string "http") ∧
        checkPairs pairs = .error (.shape fault) := by
  rw [checkPairs]
  by_cases others : (pairs.any fun p => (textKey? p).isNone) = true
  · rw [if_pos others]
    refine .inr ⟨_, fun all => ?_, rfl⟩
    obtain ⟨⟨key, v⟩, mem, noText⟩ := List.any_eq_true.1 others
    obtain rfl : key = .string "http" := all _ mem
    cases noText
  rw [if_neg others]
  have texts (p : Datum × Datum) (mem : p ∈ pairs) : ∃ key, p.1 = .string key := by
    by_contra none
    refine others (List.any_eq_true.2 ⟨p, mem, ?_⟩)
    unfold textKey?
    split
    · next key v => exact absurd ⟨key, rfl⟩ none
    · rfl
  have only : (∀ p ∈ pairs, p.1 = .string "http") ↔
      ∀ k ∈ (Association.keys (textValues pairs)).filter (· ≠ "http"), k ∈ ([] : List String) := by
    simp only [List.mem_filter, mem_keys_textValues, decide_eq_true_eq, List.not_mem_nil]
    constructor
    · rintro all k ⟨⟨v, mem⟩, other⟩
      exact other (Datum.string.inj (all _ mem))
    · intro none p mem
      obtain ⟨key, text⟩ := texts p mem
      by_contra other
      refine none key ⟨⟨p.2, ?_⟩, ?_⟩
      · rw [← text]
        exact mem
      · rintro rfl
        exact other text
  rw [only]
  exact checkKeys_cases .rpc (by simp) _

theorem httpValues_eq_ok_iff {v : Datum} {values : List (String × Datum)} :
    httpValues v = .ok values ↔
      v = .table values ∧ ∀ e ∈ values, e.1 ∈ httpNames := by
  obtain ⟨own, rfl, known, read⟩ | ⟨fault, unknown, refused⟩ := httpValues_cases v
  · rw [read, Except.ok.injEq, Datum.table.injEq]
    refine ⟨?_, And.left⟩
    rintro rfl
    exact ⟨rfl, known⟩
  · rw [refused]
    exact iff_of_false (by simp) fun h => unknown values h.1 h.2

theorem checkPairs_eq_ok_iff {pairs : List (Datum × Datum)} {u : Unit} :
    checkPairs pairs = .ok u ↔ ∀ p ∈ pairs, p.1 = .string "http" := by
  obtain ⟨only, checked⟩ | ⟨fault, others, refused⟩ := checkPairs_cases pairs
  · exact iff_of_true checked only
  · rw [refused]
    exact iff_of_false (by simp) others

/-- **What the section of the transport gives.** -/
theorem transportValues_eq_ok_iff {v : Datum} {values : List (String × Datum)} :
    transportValues v = .ok values ↔ Transport v values := by
  simp only [transportValues, bind_eq_ok_iff, sectionPairs_eq_ok_iff, httpValues_eq_ok_iff,
    checkPairs_eq_ok_iff, Except.ok.injEq, Transport]
  refine exists_congr fun pairs => and_congr_right fun _ => ?_
  constructor
  · rintro ⟨_, ⟨last, known⟩, _, only, rfl⟩
    rw [lookup_textValues only] at last
    exact ⟨only, last, known⟩
  · rintro ⟨only, last, known⟩
    rw [← lookup_textValues only] at last
    exact ⟨values, ⟨last, known⟩, (), only, rfl⟩

/-- **What is wrong with the section of the transport is reported**, unless it is a sequence of
something else than pairs. -/
theorem reported_transportValues_iff {v : Datum} :
    Reported (transportValues v) ↔ ¬ Unpaired v := by
  rw [transportValues, reported_bind, reported_sectionPairs_iff]
  refine and_iff_left fun pairs _ => reported_bind.2 ⟨?_, fun values _ => reported_bind.2 ⟨?_, ?_⟩⟩
  · obtain ⟨values, -, -, read⟩ | ⟨fault, -, refused⟩ := httpValues_cases _
    · rw [read]
      exact reported_ok values
    · rw [refused]
      exact (reported_error _).2 rfl
  · obtain ⟨-, checked⟩ | ⟨fault, -, refused⟩ := checkPairs_cases pairs
    · rw [checked]
      exact reported_ok ()
    · rw [refused]
      exact (reported_error _).2 rfl
  · exact fun _ _ => reported_ok values

/-! ## All sections -/

/-- The section of a name; an empty one if there is none. -/
def sectionOf (entries : List (String × Datum)) (name : String) : Datum :=
  (entries.lookup name).getD (.table [])

/-- What is given for the port in the section of the transport, or else the default one. -/
def givenPort (d : Defaults) (values : List (String × Datum)) : Datum :=
  (values.lookup "port").getD (.int d.port)

/-- The values of the three sections. -/
structure Sections where
  node : List (String × Datum)
  transport : List (String × Datum)
  validator : List (String × Datum)

namespace Sections

/-- The values of the sections of a table. -/
structure Of (entries : List (String × Datum)) (s : Sections) : Prop where
  node : sectionOf entries "node" = .table s.node
  transport : Transport (sectionOf entries "rpc") s.transport
  validator : sectionOf entries "validator" = .table s.validator

/-- The configuration of sections, with the integer that their port stands for. -/
def config (d : Defaults) (s : Sections) (port : Int) : NodeConfig where
  logLevel := (s.node.lookup "log_level").getD (.string d.logLevel)
  http := .ofValues d s.transport port
  url := (s.validator.lookup "url").getD (.string d.url)

end Sections

theorem lookupIn_eq_ok_iff {v absent d : Datum} {key : String} :
    lookupIn v key absent = .ok d ↔
      ∃ entries, v = .table entries ∧ (entries.lookup key).getD absent = d := by
  cases v <;> simp [lookupIn]

theorem reported_lookupIn_iff {v absent : Datum} {key : String} :
    Reported (lookupIn v key absent) ↔ ∃ entries, v = .table entries := by
  cases v <;> simp [lookupIn, Fault.isReported]

/-- **Which configuration a table is read as.** -/
theorem ofDatum_eq_ok_iff {depth : Nat} {d : Defaults} {entries : List (String × Datum)}
    {c : NodeConfig} :
    ofDatum depth (.table entries) d = .ok c ↔
      ∃ s port, Sections.Of entries s ∧ IsPort (givenPort d s.transport) port ∧
        s.config d port = c := by
  simp only [ofDatum, bind_eq_ok_iff, lookupIn_eq_ok_iff, transportValues_eq_ok_iff,
    readPort_eq_ok_iff, Except.ok.injEq, Datum.table.injEq]
  constructor
  · rintro ⟨_, ⟨_, rfl, rfl⟩, transport, given_, port, isPort, _, ⟨_, rfl, rfl⟩, _,
      ⟨node, isNode, rfl⟩, _, ⟨_, rfl, rfl⟩, _, ⟨validator, isValidator, rfl⟩, rfl⟩
    exact ⟨⟨node, transport, validator⟩, port, ⟨isNode, given_, isValidator⟩, isPort, rfl⟩
  · rintro ⟨⟨node, transport, validator⟩, port, ⟨isNode, given_, isValidator⟩, isPort, rfl⟩
    exact ⟨_, ⟨_, rfl, rfl⟩, transport, given_, port, isPort, _, ⟨_, rfl, rfl⟩, _,
      ⟨node, isNode, rfl⟩, _, ⟨_, rfl, rfl⟩, _, ⟨validator, isValidator, rfl⟩, rfl⟩

/-- The table breaks the reading off: the section of the transport is a sequence of something else
than pairs, or its port cannot be reported on, or another section is no table. -/
inductive BreaksOff (depth : Nat) (d : Defaults) (entries : List (String × Datum)) : Prop where
  | unpaired : Unpaired (sectionOf entries "rpc") → BreaksOff depth d entries
  | port {values : List (String × Datum)} : Transport (sectionOf entries "rpc") values →
      Unreportable depth (givenPort d values) → BreaksOff depth d entries
  | noTable {values : List (String × Datum)} {port : Int} {name : String} :
      Transport (sectionOf entries "rpc") values → IsPort (givenPort d values) port →
      name ∈ ["node", "validator"] → (∀ own, sectionOf entries name ≠ .table own) →
      BreaksOff depth d entries

/-- What has to be as it should in turn, so that nothing breaks the reading off. -/
theorem reported_ofDatum_steps {depth : Nat} {d : Defaults} {entries : List (String × Datum)} :
    Reported (ofDatum depth (.table entries) d) ↔
      ¬ Unpaired (sectionOf entries "rpc") ∧
        ∀ values, Transport (sectionOf entries "rpc") values →
          ¬ Unreportable depth (givenPort d values) ∧
            ∀ port, IsPort (givenPort d values) port →
              (∃ own, sectionOf entries "node" = .table own) ∧
                ∃ own, sectionOf entries "validator" = .table own := by
  simp only [ofDatum, reported_bind, reported_lookupIn_iff, lookupIn_eq_ok_iff,
    reported_transportValues_iff, transportValues_eq_ok_iff, reported_readPort_iff,
    readPort_eq_ok_iff, Datum.table.injEq, exists_eq_left', forall_eq', reported_ok, exists_eq',
    implies_true, true_and, and_true]
  refine and_congr_right fun _ => forall₂_congr fun values _ => and_congr_right fun _ =>
    forall₂_congr fun port _ => and_congr_right ?_
  rintro ⟨node, isNode⟩
  exact ⟨fun h => h _ ⟨node, isNode, rfl⟩, fun h _ _ => h⟩

/-- **Which tables are reported on.** -/
theorem reported_ofDatum_iff {depth : Nat} {d : Defaults} {entries : List (String × Datum)} :
    Reported (ofDatum depth (.table entries) d) ↔ ¬ BreaksOff depth d entries := by
  rw [reported_ofDatum_steps]
  constructor
  · rintro ⟨paired, steps⟩ breaks
    cases breaks with
    | unpaired unpaired => exact paired unpaired
    | port transport unreportable => exact (steps _ transport).1 unreportable
    | noTable transport isPort name none =>
      obtain ⟨⟨node, isNode⟩, validator, isValidator⟩ := (steps _ transport).2 _ isPort
      rcases List.mem_pair.1 name with rfl | rfl
      · exact none node isNode
      · exact none validator isValidator
  · intro whole
    refine ⟨fun unpaired => whole (.unpaired unpaired), fun values transport =>
      ⟨fun unreportable => whole (.port transport unreportable), fun port isPort => ⟨?_, ?_⟩⟩⟩
    · by_contra none
      exact whole (.noTable transport isPort (by simp) (not_exists.1 none))
    · by_contra none
      exact whole (.noTable transport isPort (by simp) (not_exists.1 none))

end LedgerGateway.Config
