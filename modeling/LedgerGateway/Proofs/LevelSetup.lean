import LedgerGateway.Proofs.JournalSetup
import LedgerGateway.Proofs.LevelTexts
import LedgerGateway.Proofs.Precedence
import LedgerGateway.Proofs.UsualRecords

/-!
# A level that is a text

The level of the journal may be any text: one that a part of the program asks for, or one that the
server is started with, out of the environment or of a section of the configuration. A text sets the
journal and its handlers to the level that it names, and nothing goes wrong that does not go wrong
with the name of a level; but if it spells the name of something that is no level, the journal is
not set up at all.

* `laterFault?`, `level_of_setUp` — setting up behind a level that was found.
* `safe_iff` — which texts are safe, `fails_of_reserved` — what becomes of the others.
* `level_of_given` — how a text comes to be the level that the server is started with, and
  `stopped_of_given` — how the start ends with one that is not safe.
* `levels_judged` — all of them together.
-/

namespace LedgerGateway.Log

/-- The request with a level that is a text. -/
def Request.withLevel (q : Request) (s : String) : Request := { q with level := some s }

namespace Journal

/-! ## Behind the level -/

section Leveled

variable {host : Host} {p : Preferences} {q : Request} {j : Journal} {level : Int}

/-- What goes wrong when the level has been found. -/
def laterFault? (host : Host) (p : Preferences) (q : Request) (files : Files) :
    Option SetupFault :=
  match p.chooseTemplate host with
  | .error fault => some (.template fault)
  | .ok _ =>
    if wantsFile p q then
      match files.openWithFolders (q.logPath p) with
      | .error fault => some (.file fault)
      | .ok _ => none
    else none

theorem fault_of_setUp (open_ : j.configured = false)
    (leveled : levelOf (given q.level p.level) = .ok level) :
    (j.setUp host p q).fault = laterFault? host p q j.files := by
  have ends := setUp_ends host p q open_
  cases h : j.setUp host p q with
  | mk journal complaint fault =>
    rw [h] at ends
    cases ends with
    | level failed => cases failed.symm.trans leveled
    | template _ chose => rw [laterFault?, chose]
    | file _ chose wanted opened => simp [laterFault?, chose, wanted, opened]
    | done _ chose opens =>
      cases opens with
      | unwanted unwanted => simp [laterFault?, chose, unwanted]
      | opened wanted opened => simp [laterFault?, chose, wanted, opened]

/-- However setting up ends, the level that was found is that of the journal and its handlers. -/
theorem level_of_setUp (open_ : j.configured = false)
    (leveled : levelOf (given q.level p.level) = .ok level) :
    (j.setUp host p q).journal.level = level ∧
      ∀ h ∈ (j.setUp host p q).journal.handlers, h.level = level := by
  refine ⟨?_, fun h mem => (made_of_setUp open_ leveled h mem).1⟩
  have ends := setUp_ends host p q open_
  cases h : j.setUp host p q with
  | mk journal complaint fault =>
    rw [h] at ends
    cases ends with
    | level failed => cases failed.symm.trans leveled
    | template found | file found | done found =>
      cases found.symm.trans leveled
      rfl

end Leveled

/-! ## Safe texts -/

/-- Setting up leaves the journal and its handlers at a level. What goes wrong is nothing about the
level, and goes wrong with the name of a level too. -/
structure Sets (level : Int) (setup usual : Setup) : Prop where
  journal : setup.journal.level = level
  handlers : ∀ h ∈ setup.journal.handlers, h.level = level
  fault : setup.fault = usual.fault
  sound : ∀ fault, setup.fault ≠ some (.level fault)

/-- The text names a level, and the journal is set up with it, for the first time or again, as with
any other name. -/
structure SafeAt (s : String) (level : Int) : Prop where
  names : Names s level
  first : ∀ host p (q : Request) j, j.configured = false →
    Sets level (setUp host p (q.withLevel s) j) (setUp host p (q.withLevel "INFO") j)
  again : ∀ host p (q : Request) j,
    Sets level (setUpAgain host p (q.withLevel s) j) (setUpAgain host p (q.withLevel "INFO") j)

/-- The text is safe to be given as a level. -/
def Safe (s : String) : Prop := ∃ level, SafeAt s level

/-- The text is refused: the journal is not set up, and stays as it was otherwise. -/
structure Fails (s : String) (fault : LevelFault) : Prop where
  first : ∀ host p (q : Request) j, j.configured = false →
    setUp host p (q.withLevel s) j = ⟨j, none, some (.level fault)⟩
  again : ∀ host p (q : Request) j, setUpAgain host p (q.withLevel s) j =
    ⟨{ j with configured := false }, none, some (.level fault)⟩

section Texts

variable {s : String}

theorem given_withLevel (some_ : s ≠ "") (q : Request) (p : Preferences) :
    given (q.withLevel s).level p.level = s := if_neg some_

theorem sets_of_levelOf {host : Host} {p : Preferences} {q : Request} {j : Journal} {level : Int}
    (some_ : s ≠ "") (leveled : levelOf s = .ok level) (open_ : j.configured = false) :
    Sets level (setUp host p (q.withLevel s) j) (setUp host p (q.withLevel "INFO") j) := by
  have own : levelOf (given (q.withLevel s).level p.level) = .ok level := by
    rwa [given_withLevel some_]
  have usual : levelOf (given (q.withLevel "INFO").level p.level) = .ok infoLevel := by
    rw [given_withLevel (by decide)]
    rfl
  obtain ⟨journal, handlers⟩ := @level_of_setUp host p _ j level open_ own
  refine ⟨journal, handlers, ?_, fun fault => ?_⟩
  · rw [fault_of_setUp open_ own, fault_of_setUp open_ usual]
    rfl
  · rw [fault_of_setUp open_ own, laterFault?]
    split
    · simp
    · split
      · split <;> simp
      · simp

theorem fails_of_levelOf {fault : LevelFault} (some_ : s ≠ "") (failed : levelOf s = .error fault) :
    Fails s fault := by
  have first (host : Host) (p : Preferences) (q : Request) (j : Journal)
      (open_ : j.configured = false) :
      setUp host p (q.withLevel s) j = ⟨j, none, some (.level fault)⟩ := by
    rw [setUp, given_withLevel some_, failed, open_]
    rfl
  exact ⟨first, fun host p q j => first host p q _ rfl⟩

theorem ne_empty_of_reserved (reserved : Reserved s) : s ≠ "" := by
  obtain ⟨fault, failed⟩ := levelOf_eq_error_iff.2 reserved
  rintro rfl
  cases failed

theorem fails_of_reserved (reserved : Reserved s) : ∃ fault, Fails s fault := by
  obtain ⟨fault, failed⟩ := levelOf_eq_error_iff.2 reserved
  exact ⟨fault, fails_of_levelOf (ne_empty_of_reserved reserved) failed⟩

/-- Which texts are safe. -/
theorem safe_iff (some_ : s ≠ "") : Safe s ↔ ¬ Reserved s := by
  constructor
  · rintro ⟨level, safe⟩ reserved
    obtain ⟨fault, fails⟩ := fails_of_reserved reserved
    have sets := safe.again plainHost (.ofSettings []) usualRequest (start .empty)
    rw [fails.again] at sets
    exact sets.sound fault rfl
  · intro free
    have leveled := levelOf_eq_ok_iff.2 ⟨free, names_iff.2 rfl⟩
    refine ⟨_, names_iff.2 rfl, fun host p q j open_ => ?_, fun host p q j => ?_⟩
    · exact sets_of_levelOf some_ leveled open_
    · exact sets_of_levelOf some_ leveled rfl

end Texts

end Journal

end LedgerGateway.Log

/-! ## The start of the server -/

namespace LedgerGateway.Cli.Serve

open Config (Defaults Resolves GivenBy Layered load load_eq_ok_iff layer_iff setVariable?_eq_some_iff
  setVariable?_eq_none_iff)

variable {limits : Limits} {log : Option Log.Startup} {d : Defaults} {files : Files}
  {env : List (String × String)} {options : Options} {s : String}

/-- A configuration is loaded in which the level is a text, that of the variable if it is set and
not empty, and else that of the section of the node; and no flag asks for another level. -/
inductive GivesLevel (limits : Config.Limits) (d : Defaults) (files : Files)
    (env : List (String × String)) (options : Options) (s : String) : Prop where
  | environment {c} : options.verbosity = 0 → env.lookup "SETH_LOG_LEVEL" = some s → s ≠ "" →
      (load limits files env options.config d).value = .ok c →
      GivesLevel limits d files env options s
  | node {p sections c} : options.verbosity = 0 →
      (∀ w, env.lookup "SETH_LOG_LEVEL" = some w → w = "") → Resolves env options.config p →
      GivenBy limits.document d files p sections → Layered d env sections c →
      sections.node.lookup "log_level" = some (.string s) → GivesLevel limits d files env options s

/-- The text is the level that is chosen behind a configuration that is loaded. -/
theorem GivesLevel.chosen {limits : Config.Limits} (h : GivesLevel limits d files env options s) :
    ∃ c, (load limits files env options.config d).value = .ok c ∧
      chooseLevel options.verbosity c = .string s := by
  have own {c : Config.NodeConfig} (quiet : options.verbosity = 0) :
      chooseLevel options.verbosity c = c.logLevel := by
    rw [quiet]
    rfl
  cases h with
  | environment quiet found some_ loaded =>
    obtain ⟨p, sections, -, -, layered⟩ := load_eq_ok_iff.1 loaded
    have level := layer_iff.1 layered.logLevel
    rw [setVariable?_eq_some_iff.2 ⟨found, some_⟩] at level
    exact ⟨_, loaded, (own quiet).trans level.symm⟩
  | node quiet unset resolves given_ layered named =>
    have level := layer_iff.1 layered.logLevel
    rw [setVariable?_eq_none_iff.2 unset, named] at level
    exact ⟨_, load_eq_ok_iff.2 ⟨_, _, resolves, given_, layered⟩, (own quiet).trans level.symm⟩

theorem level_serveWith (c : Config.NodeConfig) :
    (serveWith limits log options c).value.level = some (chooseLevel options.verbosity c) := by
  simp only [serveWith]
  cases logFault? limits.level log (chooseLevel options.verbosity c) with
  | some fault => rfl
  | none => cases settle options c <;> rfl

/-- The text is what the log is set up with when the server is started. -/
theorem level_of_given (h : GivesLevel limits.toLimits d files env options s) :
    (serve limits log d files env options).value.level = some (.string s) := by
  obtain ⟨c, loaded, chosen⟩ := h.chosen
  rw [value_serve, loaded]
  dsimp only
  rw [level_serveWith, chosen]

/-- A text with which no journal is set up stops the start. -/
theorem stopped_of_given {startup : Log.Startup} {fault : Log.LevelFault}
    (fails : Log.Journal.Fails s fault) (some_ : s ≠ "")
    (h : GivesLevel limits.toLimits d files env options s) :
    (serve limits (some startup) d files env options).value.outcome =
      .error (.log (.setup (.level fault))) := by
  obtain ⟨c, loaded, chosen⟩ := h.chosen
  have text : Log.levelText limits.level (.string s) = .ok (some s) := by
    simp [Log.levelText, Datum.truth, Datum.textFault?, Datum.text, some_]
  have failed : startup.setUp limits.level (.string s) = .error (.setup (.level fault)) := by
    have again := fails.again startup.host startup.preferences Log.Journal.usualRequest
      startup.journal
    rw [Log.Request.withLevel] at again
    simp only [Log.Startup.setUp, text, again]
  rw [value_serve, loaded]
  simp only [serveWith, chosen, logFault?, failed, Traced.value_pure]

end LedgerGateway.Cli.Serve

/-! ## Any text -/

namespace LedgerGateway.Log.Journal

open Cli.Serve (GivesLevel level_of_given stopped_of_given)

/-- What becomes of a text that is given as a level. -/
structure Judged (s : String) : Prop where
  /-- The empty text leaves the level open. -/
  empty : s = "" → ∀ host p (q : Request) j,
    setUp host p (q.withLevel s) j = setUp host p { q with level := none } j
  safe_iff : s ≠ "" → (Safe s ↔ ¬ Reserved s)
  reserved : Reserved s → ∃ fault, Fails s fault
  /-- A text that the server is started with is given to the journal as it is. -/
  start : ∀ {limits log d files env options}, GivesLevel limits.toLimits d files env options s →
    (Cli.Serve.serve limits log d files env options).value.level = some (.string s)
  /-- The start does not go on behind one that is taken by something else. -/
  stopped : Reserved s → ∃ fault, ∀ {limits startup d files env options},
    GivesLevel limits.toLimits d files env options s →
      (Cli.Serve.serve limits (some startup) d files env options).value.outcome =
        .error (.log (.setup (.level fault)))

/-- **Which texts are safe as levels.** All that do not spell, in letters of any case, one of the
two names that are taken by things that are no levels. -/
theorem levels_judged (s : String) : Judged s where
  empty := by
    rintro rfl host p q j
    rfl
  safe_iff := safe_iff
  reserved := fails_of_reserved
  start := level_of_given
  stopped := by
    intro reserved
    obtain ⟨fault, fails⟩ := fails_of_reserved reserved
    exact ⟨fault, stopped_of_given fails (ne_empty_of_reserved reserved)⟩

/-- The name of the layout of plain lines is no level, in small letters either. -/
theorem not_safe_plain_layout : ¬ Safe "basic_format" := by
  have reserved : Reserved "basic_format" := by
    rw [← levelOf_eq_error_iff]
    exact ⟨.plainLayout, rfl⟩
  intro safe
  exact (safe_iff (by decide)).1 safe reserved

end LedgerGateway.Log.Journal
