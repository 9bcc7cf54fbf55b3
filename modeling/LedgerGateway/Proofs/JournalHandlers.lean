import LedgerGateway.Proofs.JournalSetup
import LedgerGateway.Proofs.UsualRecords

/-!
# The handlers of a journal

However often the journal is called on, its handlers are those of one call: of the first that was
made after the start, or of the one that last reset the journal. Every other call is ignored. So
there is at most one handler for the console and one for a log file, and a record is written at most
once to each.

* `InForce` — the call of a history that counts; there is only one (`InForce.unique`).
* `Stands.serve`, `stands_of_runs` — the journal behind one call more, and behind a history.
* `Sinks`, `Emits`, `emits_of_sinks` — where the lines of a record go, and what the error output
  tells of it.
* `handlers_never_accumulate` — the two together.
-/

namespace LedgerGateway.Log.Journal

/-! ## Histories -/

/-- The calls that a journal was served from its start, each without a fault. What happens to the
files in the meantime is left open. -/
inductive Runs (p : Preferences) : List Call → Journal → Prop where
  | start (files : Files) : Runs p [] (start files)
  | call {calls s c} : Runs p calls s → (s.serve p c).fault = none →
      Runs p (calls ++ [c]) (s.serve p c).journal
  | files {calls s} (files : Files) : Runs p calls s → Runs p calls { s with files }

/-- The call whose request is in force: the first of all, or the last that reset the journal. -/
inductive InForce : List Call → Call → Prop where
  | first {c rest} : (∀ d ∈ rest, d.resets = false) → InForce (c :: rest) c
  | reset {before c rest} : c.resets = true → (∀ d ∈ rest, d.resets = false) →
      InForce (before ++ c :: rest) c

section InForce

variable {calls : List Call} {c d : Call}

theorem inForce_reset (calls : List Call) (resets : c.resets = true) : InForce (calls ++ [c]) c :=
  .reset resets (by simp)

theorem InForce.append (h : InForce calls d) (ignored : c.resets = false) :
    InForce (calls ++ [c]) d := by
  have behind : ∀ {rest : List Call}, (∀ e ∈ rest, e.resets = false) →
      ∀ e ∈ rest ++ [c], e.resets = false := by
    intro rest quiet
    rw [List.forall_mem_append, List.forall_mem_singleton]
    exact ⟨quiet, ignored⟩
  cases h with
  | first quiet =>
    rw [List.cons_append]
    exact .first (behind quiet)
  | reset resets quiet =>
    rw [List.append_assoc, List.cons_append]
    exact .reset resets (behind quiet)

theorem InForce.ne_nil (h : InForce calls c) : calls ≠ [] := by
  cases h <;> simp

theorem eq_of_quiet_behind {cut rest rest' : List Call} (same : c :: rest = cut ++ d :: rest')
    (resets : d.resets = true) (quiet : ∀ e ∈ rest, e.resets = false) : c = d := by
  cases cut with
  | nil => exact (List.cons.inj same).1
  | cons e cut =>
    obtain ⟨-, rfl⟩ := List.cons.inj same
    exact absurd resets (by simp [quiet d (by simp)])

/-- A call that resets the journal is the one in force if none behind it does. -/
theorem InForce.eq_of_reset {before rest : List Call} (h : InForce (before ++ c :: rest) d)
    (resets : c.resets = true) (quiet : ∀ e ∈ rest, e.resets = false) : d = c := by
  generalize whole : before ++ c :: rest = calls at h
  cases h with
  | first quiet' => exact eq_of_quiet_behind whole.symm resets quiet'
  | reset resets' quiet' =>
    -- Of the two calls one is not in front of the other.
    obtain ⟨cut, -, same⟩ | ⟨cut, -, same⟩ := List.append_eq_append_iff.1 whole
    · exact (eq_of_quiet_behind same resets' quiet).symm
    · exact eq_of_quiet_behind same resets quiet'

theorem InForce.unique (h : InForce calls c) (h' : InForce calls d) : c = d := by
  cases h with
  | reset resets quiet => exact (h'.eq_of_reset resets quiet).symm
  | @first c rest quiet =>
    generalize whole : c :: rest = calls at h'
    cases h' with
    | first => exact (List.cons.inj whole).1
    | reset resets' _ => exact eq_of_quiet_behind whole resets' quiet

end InForce

/-! ## The journal behind a history -/

/-- The journal behind calls: as it was at its start if there were none, and else as the call in
force asks for. -/
structure Stands (p : Preferences) (calls : List Call) (s : Journal) : Prop where
  untouched : calls = [] → s.configured = false ∧ s.handlers = []
  inForce : calls ≠ [] → ∃ c, InForce calls c
  arranged : ∀ {c}, InForce calls c → Arranged c.host p c.request s

variable {p : Preferences} {calls : List Call} {s : Journal} {c : Call}

theorem serve_configured (set : s.configured = true) (ignored : c.resets = false) :
    s.serve p c = ⟨s, none, none⟩ := by
  cases c with
  | logger name host => rw [serve, forLogger, if_pos set]
  | setUp q host => exact setUp_configured host p q set
  | setUpAgain q host => cases ignored

/-- A call on a journal that is not set up, or that it resets, sets the journal up. -/
theorem arranged_of_serve (plain : p.highlighting.truth = false)
    (effective : s.configured = false ∨ c.resets = true) (fine : (s.serve p c).fault = none) :
    Arranged c.host p c.request (s.serve p c).journal := by
  cases c with
  | logger name host =>
    have open_ := effective.resolve_right (by simp [Call.resets])
    rw [serve, forLogger, open_, if_neg Bool.false_ne_true] at fine ⊢
    exact arranged_of_setUp plain open_ fine
  | setUp q host =>
    have open_ := effective.resolve_right (by simp [Call.resets])
    exact arranged_of_setUp plain open_ fine
  | setUpAgain q host => exact arranged_of_setUp plain rfl fine

theorem stands_start (p : Preferences) (files : Files) : Stands p [] (start files) where
  untouched _ := ⟨rfl, rfl⟩
  inForce h := absurd rfl h
  arranged h := absurd rfl h.ne_nil

theorem Stands.configured (h : Stands p calls s) (called : calls ≠ []) : s.configured = true := by
  obtain ⟨d, inForce⟩ := h.inForce called
  exact (h.arranged inForce).configured

theorem Stands.serve (h : Stands p calls s) (plain : p.highlighting.truth = false)
    (fine : (s.serve p c).fault = none) : Stands p (calls ++ [c]) (s.serve p c).journal := by
  by_cases effective : s.configured = false ∨ c.resets = true
  · -- The call is in force from now on: it resets the journal, or is the first.
    have arranged := arranged_of_serve plain effective fine
    have inForce : InForce (calls ++ [c]) c := by
      cases resets : c.resets with
      | true => exact inForce_reset calls resets
      | false =>
        have open_ := effective.resolve_right (by simp [resets])
        cases calls with
        | nil => exact .first (by simp)
        | cons d more => exact absurd (h.configured (by simp)) (by simp [open_])
    refine ⟨fun none_ => absurd none_ (by simp), fun _ => ⟨c, inForce⟩, fun other => ?_⟩
    rw [other.unique inForce]
    exact arranged
  · obtain ⟨set, ignored⟩ := not_or.1 effective
    rw [Bool.not_eq_false] at set
    rw [Bool.not_eq_true] at ignored
    have called : calls ≠ [] := fun none_ => by simp [(h.untouched none_).1] at set
    obtain ⟨d, inForce⟩ := h.inForce called
    have same := inForce.append ignored
    rw [serve_configured set ignored]
    refine ⟨fun none_ => absurd none_ (by simp), fun _ => ⟨d, same⟩, fun other => ?_⟩
    rw [other.unique same]
    exact h.arranged inForce

theorem Stands.files (h : Stands p calls s) (files : Files) : Stands p calls { s with files } where
  untouched := h.untouched
  inForce := h.inForce
  arranged inForce := by
    obtain ⟨configured, level, levels, handlers⟩ := h.arranged inForce
    exact ⟨configured, level, levels, handlers⟩

theorem stands_of_runs (plain : p.highlighting.truth = false) (h : Runs p calls s) :
    Stands p calls s := by
  induction h with
  | start files => exact stands_start p files
  | call _ fine ih => exact ih.serve plain fine
  | files files _ ih => exact ih.files files

/-! ## Where the lines of a record go -/

/-- The handlers are one for a plain console and one for a log file, each if it is there, in that
order and at the level of the journal. -/
structure Sinks (s : Journal) (console? file? : Option Handler) : Prop where
  handlers : s.handlers = console?.toList ++ file?.toList
  console : ∀ h ∈ console?, h.sink = .console ∧ h.level = s.level
  file : ∀ h ∈ file?, (∃ place, h.sink = .file place) ∧ h.level = s.level

/-- The line that a handler of a console writes for a record that it is handed, if it writes one. -/
def lineFor? (y : System) (r : Record) (h : Handler) : Option (List Char) :=
  if r.level < h.level then none
  else
    match h.formatter.line y.toBounds r with
    | .error _ => none
    | .ok line => some (line ++ ['\n'])

/-- The line that a handler of a console writes for a record that is logged, if it writes one. -/
def line? (y : System) (s : Journal) (r : Record) (h : Handler) : Option (List Char) :=
  if s.passes r then
    match r.checkMade with
    | .error _ => none
    | .ok _ => lineFor? y r h
  else none

/-- The files with a line at the end of the one at a place. -/
def withLine (files : Files) (place : Files.Place) (line : List Char) : Files :=
  files.append place (Text.Utf8.encode (String.ofList (line ++ ['\n'])))

/-- What becomes of the files: a log file may make way, and then its handler may write a line into
it, once. -/
inductive Adds (y : System) (r : Record) (file? : Option Handler) (files : Files) :
    Files → Prop where
  | nothing {kept : Files} : LogFile.Keeps files kept → Adds y r file? files kept
  | line {h : Handler} {place : Files.Place} {kept : Files} {line : List Char} : file? = some h →
      h.sink = .file place → LogFile.Keeps files kept →
      h.formatter.line y.toBounds r.reported = .ok line →
      Adds y r file? files (withLine kept place line)

/-- What the error output is told at once: the fault of a handler, or the text of the record if
there are no handlers. -/
inductive Note (y : System) (s : Journal) (r : Record) : List Char → Prop where
  | fault (fault : HandlingFault) : Note y s r (report y r fault).1
  | reportedFault (fault : HandlingFault) : Note y s r (report y r.reported fault).1
  | bare {text : List Char} : s.handlers = [] → bareFormatter.text y.toBounds r = .ok text →
      Note y s r (text ++ ['\n'])

/-- The error output is told something a number of times at most. -/
def Notes (y : System) (s : Journal) (r : Record) (count : Nat) (errors : List Char) : Prop :=
  ∃ notes : List (List Char), errors = notes.flatten ∧ notes.length ≤ count ∧
    ∀ note ∈ notes, Note y s r note

/-- A record reaches a handler: it passes and can be made, and it is serious enough. -/
structure Takes (s : Journal) (r : Record) (h : Handler) : Prop where
  passes : s.passes r
  made : r.checkMade = .ok ()
  level : h.level ≤ r.level

/-- Nothing stands in the way of a record to the log file of a handler: the handler takes it, its
lines are made, and the log file makes way for its line if it has to. -/
structure Passage (y : System) (s : Journal) (r : Record) (console? : Option Handler) (h : Handler)
    (place : Files.Place) (kept : Files) (line : List Char) : Prop where
  takes : s.Takes r h
  shown : ∀ c ∈ console?, ∃ line, c.formatter.line y.toBounds r = .ok line
  regular : LogFile.isRegular s.files place
  way : ∃ first,
    h.formatter.line y.toBounds (if console?.isSome then r.reported else r) = .ok first ∧
    LogFile.makeWay y.leavesEmpty s.files place (first.length + 1) = (kept, none)
  line : h.formatter.line y.toBounds r.reported = .ok line

/-- A record is written once to each sink that takes it: what the console shows is one line or none,
the log file gets one line or none, and the error output is told one thing for each handler, or one
if there is none. -/
structure Emits (y : System) (s : Journal) (r : Record) (console? file? : Option Handler) :
    Prop where
  console : (s.log y r).console = (console?.bind (s.line? y r)).getD []
  files : Adds y r file? s.files (s.log y r).files
  untouched : (∀ h ∈ file?, ¬ s.Takes r h) → (s.log y r).files = s.files
  errors : Notes y s r (max 1 s.handlers.length) (s.log y r).errors
  complete : ∀ {h place kept line}, file? = some h → h.sink = .file place →
    Passage y s r console? h place kept line →
    (s.log y r).files = withLine kept place line ∧ (s.log y r).errors = []

section Lines

variable {y : System} {r : Record} {h : Handler} {e : Emitted}

/-! What a step of the logging leaves behind. -/

theorem Notes.none (y : System) (s : Journal) (r : Record) (count : Nat) : Notes y s r count [] :=
  ⟨[], rfl, Nat.zero_le _, by simp⟩

theorem Notes.one {note : List Char} (h : Note y s r note) : Notes y s r 1 note :=
  ⟨[note], by simp, Nat.le_refl _, by simpa using h⟩

theorem Notes.append {count more : Nat} {errors behind : List Char} (h : Notes y s r count errors)
    (h' : Notes y s r more behind) : Notes y s r (count + more) (errors ++ behind) := by
  obtain ⟨notes, rfl, few, own⟩ := h
  obtain ⟨notes', rfl, few', own'⟩ := h'
  refine ⟨notes ++ notes', by simp, ?_, List.forall_mem_append.2 ⟨own, own'⟩⟩
  rw [List.length_append]
  exact Nat.add_le_add few few'

theorem Notes.mono {count more : Nat} {errors : List Char} (h : Notes y s r count errors)
    (le : count ≤ more) : Notes y s r more errors := by
  obtain ⟨notes, same, few, own⟩ := h
  exact ⟨notes, same, few.trans le, own⟩

/-- The record that a handler gets: the one that is logged, with or without its report. -/
def IsHanded (r x : Record) : Prop := x = r ∨ x = r.reported

theorem IsHanded.reported {x : Record} (handed : IsHanded r x) : x.reported = r.reported := by
  rcases handed with rfl | rfl
  · rfl
  · exact Record.reported_reported r

theorem IsHanded.level {x : Record} (handed : IsHanded r x) : x.level = r.level := by
  rcases handed with rfl | rfl <;> rfl

theorem IsHanded.note {x : Record} (handed : IsHanded r x) (fault : HandlingFault) :
    Note y s r (report y x fault).1 := by
  rcases handed with rfl | rfl
  · exact .fault fault
  · exact .reportedFault fault

theorem isHanded_recordBehind (y : System) (h : Handler) (r : Record) :
    IsHanded r (recordBehind y h r) := by
  unfold recordBehind
  split
  · exact .inl rfl
  · exact .inr rfl

/-- What an emission leaves as it is, and the one thing that the error output is told at most. -/
structure Told (y : System) (s : Journal) (r : Record) (e e' : Emitted) : Prop where
  files : e'.files = e.files
  console : e'.console = e.console
  errors : ∃ note, Notes y s r 1 note ∧ e'.errors = e.errors ++ note

theorem told_failed {x : Record} (handed : IsHanded r x) (fault : HandlingFault) (e : Emitted) :
    Told y s r e (e.failed y x fault) :=
  ⟨rfl, rfl, _, .one (handed.note fault), rfl⟩

theorem told_unmade (fault : FormatFault) (e : Emitted) : Told y s r e (e.unmade y r fault) := by
  unfold Emitted.unmade
  split
  · exact ⟨rfl, rfl, [], .none y s r 1, (List.append_nil _).symm⟩
  · exact told_failed (.inl rfl) _ e

/-! The handlers, one after the other. -/

/-- What a console shows. -/
theorem showLine_cases (y : System) (s : Journal) (f : Formatter) (r : Record) (e : Emitted) :
    (∃ line, f.line y.toBounds r = .ok line ∧
      showLine y f r e = { e with console := e.console ++ (line ++ ['\n']) }) ∨
    ∃ fault, f.line y.toBounds r = .error fault ∧ Told y s r e (showLine y f r e) := by
  unfold showLine
  cases made : f.line y.toBounds r with
  | ok line => exact .inl ⟨line, rfl, by simp only [List.append_assoc]⟩
  | error fault => exact .inr ⟨fault, rfl, told_unmade fault e⟩

/-- What the handler for a log file leaves behind, if there is one. -/
structure Gains (y : System) (s : Journal) (r : Record) (file? : Option Handler)
    (e e' : Emitted) : Prop where
  console : e'.console = e.console
  files : Adds y r file? e.files e'.files
  untouched : (∀ h ∈ file?, r.level < h.level) → e'.files = e.files
  errors : ∃ note, Notes y s r file?.toList.length note ∧ e'.errors = e.errors ++ note

theorem Gains.refl (y : System) (s : Journal) (r : Record) (file? : Option Handler) (e : Emitted) :
    Gains y s r file? e e :=
  ⟨rfl, .nothing (.refl _), fun _ => rfl, [], .none y s r _, (List.append_nil _).symm⟩

theorem Told.gains {e' : Emitted} {kept : Files} (told : Told y s r { e with files := kept } e')
    (high : ¬ r.level < h.level) (keeps : LogFile.Keeps e.files kept) :
    Gains y s r (some h) e e' where
  console := told.console
  files := by
    rw [told.files]
    exact .nothing keeps
  untouched low := absurd (low h rfl) high
  errors := told.errors

/-- A line is written into a file, or it cannot be made. -/
theorem writeLine_cases {x : Record} (handed : IsHanded r x) (y : System) (s : Journal)
    (f : Formatter) (place : Files.Place) (e : Emitted) :
    (∃ line, f.line y.toBounds x = .ok line ∧
      writeLine y f place x e = { e with files := withLine e.files place line }) ∨
    Told y s r e (writeLine y f place x e) := by
  unfold writeLine
  cases made : f.line y.toBounds x with
  | ok line => exact .inl ⟨line, rfl, rfl⟩
  | error fault => exact .inr (told_failed handed _ e)

theorem gains_fileLine {x : Record} (handed : IsHanded r x) {place : Files.Place}
    (sink : h.sink = .file place) (high : ¬ r.level < h.level) (s : Journal) (e : Emitted) :
    Gains y s r (some h) e (fileLine y h.formatter place x e) := by
  have quiet : ∃ note, Notes y s r 1 note ∧ e.errors = e.errors ++ note :=
    ⟨[], .none y s r 1, (List.append_nil _).symm⟩
  unfold fileLine
  by_cases regular : LogFile.isRegular e.files place = true
  · rw [regular, if_neg (by simp)]
    cases first : h.formatter.line y.toBounds x with
    | error fault => exact (told_failed handed _ e).gains high (.refl e.files)
    | ok line =>
      cases way : LogFile.makeWay y.leavesEmpty e.files place (line.length + 1) with
      | mk kept fault =>
      have keeps : LogFile.Keeps e.files kept := by
        have keeps := LogFile.keeps_makeWay y.leavesEmpty e.files place (line.length + 1)
        rwa [way] at keeps
      have reported : IsHanded r r.reported := .inr rfl
      simp only [way, handed.reported]
      cases fault with
      | some fault => exact (told_failed reported _ { e with files := kept }).gains high keeps
      | none =>
        obtain ⟨line, made, wrote⟩ | told :=
          writeLine_cases reported y s h.formatter place { e with files := kept }
        · simp only [wrote]
          exact ⟨rfl, .line rfl sink keeps made, fun low => absurd (low h rfl) high, quiet⟩
        · exact told.gains high keeps
  · rw [Bool.eq_false_iff.2 regular, Bool.not_false, if_pos rfl]
    obtain ⟨line, -, wrote⟩ | told := writeLine_cases handed y s h.formatter place e
    · rw [wrote, withLine, LogFile.append_of_not_isRegular regular]
      exact .refl y s r _ e
    · exact told.gains high (.refl e.files)

theorem gains_hand {console? file? : Option Handler} (sinks : Sinks s console? file?) {x : Record}
    (handed : IsHanded r x) (e : Emitted) : Gains y s r file? e (hand y x file?.toList e) := by
  cases file? with
  | none => exact .refl y s r none e
  | some h =>
    obtain ⟨⟨place, sink⟩, -⟩ := sinks.file h rfl
    rw [Option.toList_some]
    rw [hand]
    by_cases low : x.level < h.level
    · rw [if_pos low]
      exact .refl y s r _ e
    · rw [if_neg low]
      rw [handed.level] at low
      simp only [deliver, sink, hand, ite_self]
      exact gains_fileLine handed sink low s e

/-- A record is handed to a console first, and then to a file. -/
theorem hand_sinks {console? file? : Option Handler} (sinks : Sinks s console? file?) (y : System)
    (r : Record) : ∃ e : Emitted, e.files = s.files ∧
      e.console = (console?.bind (lineFor? y r)).getD [] ∧
      Notes y s r console?.toList.length e.errors ∧
      Gains y s r file? e (hand y r s.handlers ⟨s.files, [], [], none⟩) := by
  rw [sinks.handlers]
  cases console? with
  | none =>
    exact ⟨⟨s.files, [], [], none⟩, rfl, rfl, .none y s r 0, gains_hand sinks (.inl rfl) _⟩
  | some c =>
    obtain ⟨terminal, -⟩ := sinks.console c rfl
    rw [Option.toList_some, List.singleton_append, hand]
    by_cases low : r.level < c.level
    · rw [if_pos low]
      refine ⟨_, rfl, ?_, .none y s r 1, gains_hand sinks (.inl rfl) _⟩
      simp [lineFor?, low]
    · rw [if_neg low]
      simp only [deliver, terminal]
      obtain ⟨line, shown, wrote⟩ | ⟨fault, unmade, told⟩ :=
        showLine_cases y s c.formatter r ⟨s.files, [], [], none⟩
      · rw [wrote]
        refine ⟨_, rfl, ?_, .none y s r 1, gains_hand sinks (isHanded_recordBehind y c r) _⟩
        simp [lineFor?, low, shown]
      · obtain ⟨files, console, note, notes, errors⟩ := told
        refine ⟨showLine y c.formatter r ⟨s.files, [], [], none⟩, files, ?_, ?_, ?_⟩
        · simp [console, lineFor?, unmade]
        · rw [errors, List.nil_append]
          exact notes
        · split
          · exact .refl y s r _ _
          · exact gains_hand sinks (isHanded_recordBehind y c r) _

/-- A record that is not handed on is written nowhere. -/
theorem emits_nothing {console? file? : Option Handler} (lost : ∀ h, s.line? y r h = none)
    (barred : ¬ s.passes r ∨ r.checkMade ≠ .ok ())
    (quiet : (s.log y r).console = [] ∧ (s.log y r).files = s.files ∧ (s.log y r).errors = []) :
    Emits y s r console? file? where
  console := by
    rw [quiet.1]
    cases console? <;> simp [lost]
  files := by
    rw [quiet.2.1]
    exact .nothing (.refl _)
  untouched _ := quiet.2.1
  errors := by
    rw [quiet.2.2]
    exact .none y s r _
  complete _ _ passage :=
    (barred.elim (fun low => low passage.takes.passes) fun unmade => unmade passage.takes.made).elim

/-- A record that comes through to the log file is written there. -/
theorem hand_passage {console? : Option Handler} (sinks : Sinks s console? (some h))
    {place : Files.Place} {kept : Files} {line : List Char} (sink : h.sink = .file place)
    (passage : Passage y s r console? h place kept line) :
    ∃ shown, hand y r s.handlers ⟨s.files, [], [], none⟩ =
      ⟨withLine kept place line, shown, [], none⟩ := by
  obtain ⟨first, made, way⟩ := passage.way
  have last (x : Record) (level : x.level = r.level) (own : x.reported = r.reported)
      (same : h.formatter.line y.toBounds x = .ok first) (shown : List Char) :
      hand y x [h] ⟨s.files, shown, [], none⟩ = ⟨withLine kept place line, shown, [], none⟩ := by
    have low : ¬ x.level < h.level := by
      rw [level]
      exact Int.not_lt.2 passage.takes.level
    have regular : (!LogFile.isRegular s.files place) = false := by simp [passage.regular]
    rw [hand, if_neg low]
    simp only [deliver, sink, fileLine, regular, same, way, own, writeLine, passage.line, hand,
      ite_self]
    rfl
  rw [sinks.handlers]
  cases console? with
  | none => exact ⟨[], last r rfl rfl made []⟩
  | some c =>
    obtain ⟨terminal, level⟩ := sinks.console c rfl
    obtain ⟨text, shown⟩ := passage.shown c rfl
    have low : ¬ r.level < c.level := by
      rw [level, ← (sinks.file h rfl).2]
      exact Int.not_lt.2 passage.takes.level
    have behind : recordBehind y c r = r.reported := by rw [recordBehind, shown]
    refine ⟨text ++ ['\n'], ?_⟩
    show hand y r [c, h] _ = _
    rw [hand, if_neg low]
    simp only [deliver, terminal, showLine, shown, behind]
    exact last r.reported rfl (Record.reported_reported r) made _

/-- What a journal without handlers tells the error output. -/
theorem lastResort_spec (none_ : s.handlers = []) (y : System) (r : Record) (e : Emitted) :
    Told y s r e (lastResort y r e) := by
  unfold lastResort
  split
  · exact ⟨rfl, rfl, [], .none y s r 1, (List.append_nil _).symm⟩
  · cases made : bareFormatter.text y.toBounds r with
    | error fault => exact told_unmade fault e
    | ok text =>
      exact ⟨rfl, rfl, text ++ ['\n'], .one (.bare none_ made), by simp⟩

theorem line?_eq (passes : s.passes r = true) (made : r.checkMade = .ok ()) :
    s.line? y r = lineFor? y r := by
  funext h
  rw [line?, if_pos passes, made]

/-- Without handlers a record is written nowhere, but the error output may be told its text. -/
theorem emits_bare (passes : s.passes r = true) (made : r.checkMade = .ok ())
    (none_ : s.handlers = []) : Emits y s r none none := by
  have logged : s.log y r = lastResort y r ⟨s.files, [], [], none⟩ := by
    simp [log, passes, made, none_]
  obtain ⟨files, console, note, notes, errors⟩ :=
    lastResort_spec none_ y r ⟨s.files, [], [], none⟩
  rw [← logged] at files console errors
  refine ⟨console, ?_, fun _ => files, ?_, by rintro _ _ _ _ ⟨⟩⟩
  · rw [files]
    exact .nothing (.refl _)
  · rw [errors, List.nil_append]
    exact notes.mono (Nat.le_max_left 1 _)

/-- A record is handed to the handlers that there are. -/
theorem emits_handed {console? file? : Option Handler} (sinks : Sinks s console? file?)
    (passes : s.passes r = true) (made : r.checkMade = .ok ()) (some_ : s.handlers ≠ []) :
    Emits y s r console? file? := by
  have logged : s.log y r = hand y r s.handlers ⟨s.files, [], [], none⟩ := by
    simp [log, passes, made, some_]
  obtain ⟨e, files, console, notes, gains⟩ := hand_sinks sinks y r
  rw [← logged] at gains
  obtain ⟨note, more, errors⟩ := gains.errors
  constructor
  · rw [gains.console, console, line?_eq passes made]
  · rw [← files]
    exact gains.files
  · intro spared
    rw [← files]
    refine gains.untouched fun h mem => Int.not_le.1 fun level => ?_
    exact spared h mem ⟨passes, made, level⟩
  · rw [errors]
    refine (notes.append more).mono ?_
    rw [← List.length_append, ← sinks.handlers]
    exact Nat.le_max_right 1 _
  · rintro h place kept line rfl sink passage
    obtain ⟨shown, handed⟩ := hand_passage sinks sink passage
    rw [logged, handed]
    exact ⟨rfl, rfl⟩

theorem emits_of_sinks {console? file? : Option Handler} (sinks : Sinks s console? file?)
    (y : System) (r : Record) : Emits y s r console? file? := by
  by_cases passes : s.passes r = true
  swap
  · refine emits_nothing (fun h => if_neg passes) (.inl passes) ?_
    simp [log, passes]
  cases made : r.checkMade with
  | error fault =>
    refine emits_nothing (fun h => ?_) (.inr (by simp [made])) ?_
    · rw [line?, if_pos passes, made]
    · simp [log, passes, made]
  | ok _ =>
    by_cases none_ : s.handlers = []
    · have both := sinks.handlers.symm.trans none_
      rw [List.append_eq_nil_iff, Option.toList_eq_nil_iff, Option.toList_eq_nil_iff] at both
      obtain ⟨rfl, rfl⟩ := both
      exact emits_bare passes made none_
    · exact emits_handed sinks passes made none_

end Lines

/-! ## However often it is called on -/

theorem sinks_of_arranged {host : Host} {q : Request} (h : Arranged host p q s) :
    ∃ console? file?, Sinks s console? file? := by
  obtain ⟨chosen, -, handlers⟩ := h.handlers
  refine ⟨_, _, handlers, ?_, ?_⟩
  · intro h asked
    simp only [Request.consoleHandler?, Option.mem_def, Option.ite_none_right_eq_some] at asked
    obtain ⟨-, same⟩ := asked
    cases same
    exact ⟨rfl, rfl⟩
  · intro h asked
    simp only [Request.fileHandler?, Option.mem_def, Option.ite_none_right_eq_some] at asked
    obtain ⟨-, same⟩ := asked
    cases same
    exact ⟨⟨_, rfl⟩, rfl⟩

theorem Stands.sinks (h : Stands p calls s) : ∃ console? file?, Sinks s console? file? := by
  cases calls with
  | nil =>
    obtain ⟨-, none_⟩ := h.untouched rfl
    exact ⟨none, none, none_, by simp, by simp⟩
  | cons c rest =>
    obtain ⟨d, inForce⟩ := h.inForce (List.cons_ne_nil c rest)
    exact sinks_of_arranged (h.arranged inForce)

/-- A journal that was called on any number of times. -/
structure Steady (p : Preferences) (calls : List Call) (s : Journal) : Prop where
  untouched : calls = [] → s.handlers = []
  /-- One call is in force. -/
  inForce : calls ≠ [] → ∃ c, InForce calls c ∧ ∀ d, InForce calls d → d = c
  /-- The journal is set up as that call asks for. -/
  arranged : ∀ {c}, InForce calls c → Arranged c.host p c.request s
  /-- Any further call is ignored unless it resets the journal. -/
  ignored : calls ≠ [] → ∀ c, c.resets = false → s.serve p c = ⟨s, none, none⟩
  /-- At most two handlers take the records, and each writes a record once. -/
  once : ∃ console? file?, Sinks s console? file? ∧ ∀ y r, Emits y s r console? file?

/-- **Handlers never accumulate.** Behind any number of calls that end without a fault, and with a
console that is plain, a journal has the handlers of the one call that is in force. -/
theorem handlers_never_accumulate (plain : p.highlighting.truth = false) (h : Runs p calls s) :
    Steady p calls s := by
  have stands := stands_of_runs plain h
  refine ⟨fun none_ => (stands.untouched none_).2, fun called => ?_, stands.arranged, ?_, ?_⟩
  · obtain ⟨c, inForce⟩ := stands.inForce called
    exact ⟨c, inForce, fun d other => other.unique inForce⟩
  · intro called c ignored
    exact serve_configured (stands.configured called) ignored
  · obtain ⟨console?, file?, sinks⟩ := stands.sinks
    exact ⟨console?, file?, sinks, emits_of_sinks sinks⟩

/-- Preferences with a plain console and no layout of their own. -/
def plainPreferences : Preferences where
  level := .text Settings.builtinLevel (.string Settings.builtinLevel)
  format := .text "" (.string Settings.builtinFormat)
  dateFormat := .text Settings.builtinDateFormat (.string Settings.builtinDateFormat)
  highlighting := .flag false (.bool true)
  fileOutput := .flag true (.bool true)
  filePath := .text Settings.builtinLogPath (.string Settings.builtinLogPath)

/-- A request for a level on the console alone. -/
def consoleOnly (level : String) : Request := ⟨some level, none, true, some false⟩

/-- The journal is set up with all details, a logger is asked for, and the journal is reset. -/
def threeCalls : List Call :=
  [.setUp (consoleOnly "debug") plainHost, .logger "seth_rpc.cli" plainHost,
    .setUpAgain (consoleOnly "warning") plainHost]

theorem handlers_never_accumulate_three_calls :
    plainPreferences.highlighting.truth = false ∧
      ∃ s, Runs plainPreferences threeCalls s ∧ Steady plainPreferences threeCalls s := by
  have first : ((start .empty).serve plainPreferences
      (.setUp (consoleOnly "debug") plainHost)).fault = none := rfl
  have second : (((start .empty).serve plainPreferences
      (.setUp (consoleOnly "debug") plainHost)).journal.serve plainPreferences
      (.logger "seth_rpc.cli" plainHost)).fault = none := rfl
  have runs : ∃ s, Runs plainPreferences threeCalls s :=
    ⟨_, .call (.call (.call (.start .empty) first) second) rfl⟩
  obtain ⟨s, runs⟩ := runs
  exact ⟨rfl, s, runs, handlers_never_accumulate rfl runs⟩

end LedgerGateway.Log.Journal
