import LedgerGateway.Log.Call

/-!
# How setting up a journal ends

A journal that is not set up yet is given its level first, then loses its handlers, and gets those
that are asked for. Each step may fail, and then the journal stays as far as it came: not set up, at
the new level, with no handler or with that of the console alone.

* `Ends`, `setUp_ends` — the four ways to end; `made_of_setUp` — the handlers that are left.
* `Arranged`, `arranged_of_setUp` — the journal that is left behind without a fault.
-/

namespace LedgerGateway.Log

/-- The formatter for a template that was chosen. -/
def Preferences.formatter (p : Preferences) (chosen : Chosen) : Formatter :=
  ⟨chosen.template, some p.dates⟩

/-- The path of the log file that is asked for. -/
def Request.logPath (q : Request) (p : Preferences) : Files.Path :=
  .ofText (given q.file p.filePath)

/-- The handler for a plain console, if one is asked for. -/
def Request.consoleHandler? (q : Request) (level : Int) (f : Formatter) : Option Handler :=
  if q.console then some ⟨.console, level, f⟩ else none

/-- The handler for the log file, if one is asked for. -/
def Request.fileHandler? (q : Request) (p : Preferences) (level : Int) (f : Formatter) :
    Option Handler :=
  if Journal.wantsFile p q then
    let path := q.logPath p
    some ⟨.file (Files.straight (Files.beginning path) path.parts), level, f⟩
  else none

namespace Journal

variable {host : Host} {p : Preferences} {q : Request} {s : Journal}

/-! ## The ways to end -/

/-- A journal that has a new level and no handlers. -/
def cleared (s : Journal) (level : Int) : Journal :=
  { s with level, levels := quietLevels, handlers := [] }

/-- The log file is opened if one is asked for, and else the files stay as they are. -/
inductive Opens (p : Preferences) (q : Request) (files : Files) : Files → Prop where
  | unwanted : wantsFile p q = false → Opens p q files files
  | opened {place files'} : wantsFile p q = true →
      files.openWithFolders (q.logPath p) = .ok (place, files') → Opens p q files files'

/-- How setting up ends for a journal that is not set up yet. -/
inductive Ends (host : Host) (p : Preferences) (q : Request) (s : Journal) : Setup → Prop where
  | level {fault} : levelOf (given q.level p.level) = .error fault →
      Ends host p q s ⟨s, none, some (.level fault)⟩
  | template {level fault} : levelOf (given q.level p.level) = .ok level →
      p.chooseTemplate host = .error fault →
      Ends host p q s ⟨s.cleared level, none, some (.template fault)⟩
  | file {level chosen fault} : levelOf (given q.level p.level) = .ok level →
      p.chooseTemplate host = .ok chosen → wantsFile p q = true →
      s.files.openWithFolders (q.logPath p) = .error fault →
      Ends host p q s ⟨{ s.cleared level with
        handlers := consoleHandlers p q level (p.formatter chosen) }, chosen.complaint,
        some (.file fault)⟩
  | done {level chosen files} : levelOf (given q.level p.level) = .ok level →
      p.chooseTemplate host = .ok chosen → Opens p q s.files files →
      Ends host p q s ⟨⟨level, quietLevels, consoleHandlers p q level (p.formatter chosen) ++
        (q.fileHandler? p level (p.formatter chosen)).toList, true, files⟩, chosen.complaint, none⟩

/-- The place of a file that is opened is the one that its path names. -/
theorem place_of_openFile {files files' : Files} {path : Files.Path} {place : Files.Place}
    (opened : files.openFile path = .ok (place, files')) :
    place = Files.straight (Files.beginning path) path.parts := by
  simp only [Files.openFile] at opened
  split at opened <;> cases opened <;> rfl

theorem place_of_openWithFolders {files files' : Files} {path : Files.Path} {place : Files.Place}
    (opened : files.openWithFolders path = .ok (place, files')) :
    place = Files.straight (Files.beginning path) path.parts := by
  unfold Files.openWithFolders at opened
  split at opened
  · cases opened
  · exact place_of_openFile opened

/-- The handler for the log file is added, or the file cannot be opened. -/
theorem addFile_cases (p : Preferences) (q : Request) (level : Int) (f : Formatter) (s : Journal) :
    (∃ fault, wantsFile p q = true ∧ s.files.openWithFolders (q.logPath p) = .error fault ∧
      addFile p q level f s = .error (.file fault)) ∨
    ∃ files, Opens p q s.files files ∧ addFile p q level f s = .ok { s with
      files, handlers := s.handlers ++ (q.fileHandler? p level f).toList, configured := true } := by
  unfold addFile
  by_cases wanted : wantsFile p q = true
  · rw [if_pos wanted]
    cases opened : s.files.openWithFolders (.ofText (given q.file p.filePath)) with
    | error fault => exact .inl ⟨fault, wanted, opened, rfl⟩
    | ok placed =>
      obtain ⟨place, files⟩ := placed
      have one : q.fileHandler? p level f = some ⟨.file place, level, f⟩ := by
        rw [place_of_openWithFolders opened, Request.fileHandler?, if_pos wanted]
        rfl
      exact .inr ⟨files, .opened wanted opened, by rw [one]; rfl⟩
  · have none_ : q.fileHandler? p level f = none := by rw [Request.fileHandler?, if_neg wanted]
    rw [if_neg wanted]
    exact .inr ⟨s.files, .unwanted (Bool.eq_false_iff.2 wanted), by simp [none_]⟩

/-- There is no other way to end. -/
theorem setUp_ends (host : Host) (p : Preferences) (q : Request) (open_ : s.configured = false) :
    Ends host p q s (setUp host p q s) := by
  rw [setUp, open_, if_neg Bool.false_ne_true]
  cases leveled : levelOf (given q.level p.level) with
  | error fault => exact .level leveled
  | ok level =>
    cases chose : p.chooseTemplate host with
    | error fault =>
      rw [← open_]
      exact .template leveled chose
    | ok chosen =>
      obtain ⟨fault, wanted, opened, added⟩ | ⟨files, opens, added⟩ :=
        addFile_cases p q level (p.formatter chosen) { s.cleared level with
          handlers := consoleHandlers p q level (p.formatter chosen) }
      all_goals
        simp only [Preferences.formatter, cleared, open_] at added
        simp only [added]
      · rw [← open_]
        exact .file leveled chose wanted opened
      · exact .done leveled chose opens

/-! ## The handlers -/

/-- A handler for the console is made with the level and the formatter that are at hand. -/
theorem made_of_consoleHandlers {level : Int} {f : Formatter} :
    ∀ h ∈ consoleHandlers p q level f, h.level = level ∧ h.formatter = f := by
  intro h mem
  unfold consoleHandlers at mem
  split at mem
  · rw [List.mem_singleton.1 mem]
    exact ⟨rfl, rfl⟩
  · cases mem

/-- So is the handler for the log file. -/
theorem made_of_fileHandler? {level : Int} {f : Formatter} :
    ∀ h ∈ (q.fileHandler? p level f).toList, h.level = level ∧ h.formatter = f := by
  intro h mem
  unfold Request.fileHandler? at mem
  split at mem
  · rw [List.mem_singleton.1 mem]
    exact ⟨rfl, rfl⟩
  · cases mem

/-- However setting up ends behind the level, the handlers that are left have this level and make
their lines with the template that was chosen. -/
theorem made_of_setUp {level : Int} (open_ : s.configured = false)
    (leveled : levelOf (given q.level p.level) = .ok level) :
    ∀ h ∈ (setUp host p q s).journal.handlers, h.level = level ∧
      ∃ chosen, p.chooseTemplate host = .ok chosen ∧ h.formatter = p.formatter chosen := by
  have ends := setUp_ends host p q open_
  cases result : setUp host p q s with
  | mk journal complaint fault =>
    rw [result] at ends
    intro h mem
    cases ends with
    | level failed => cases failed.symm.trans leveled
    | template => cases mem
    | file found chose =>
      cases found.symm.trans leveled
      obtain ⟨own, made⟩ := made_of_consoleHandlers h mem
      exact ⟨own, _, chose, made⟩
    | done found chose =>
      cases found.symm.trans leveled
      obtain ⟨own, made⟩ :=
        List.forall_mem_append.2 ⟨made_of_consoleHandlers, made_of_fileHandler?⟩ h mem
      exact ⟨own, _, chose, made⟩

/-! ## Without a fault -/

theorem Opens.not_fault {files files' : Files} (h : Opens p q files files')
    (wanted : wantsFile p q = true) (fault : Files.Fault) :
    files.openWithFolders (q.logPath p) ≠ .error fault := by
  cases h with
  | unwanted unwanted => exact absurd wanted (by simp [unwanted])
  | opened _ opened => simp [opened]

/-- Nothing goes wrong exactly if the level is one, a template is chosen, and the log file can be
opened if it is wanted. -/
theorem fault_setUp_eq_none_iff (open_ : s.configured = false) :
    (setUp host p q s).fault = none ↔
      (∃ level, levelOf (given q.level p.level) = .ok level) ∧
      (∃ chosen, p.chooseTemplate host = .ok chosen) ∧ ∃ files, Opens p q s.files files := by
  have ends := setUp_ends host p q open_
  cases h : setUp host p q s with
  | mk journal complaint fault =>
    rw [h] at ends
    cases ends with
    | level leveled => simp [leveled]
    | template _ chose => simp [chose]
    | file _ _ wanted opened =>
      simp only [reduceCtorEq, false_iff, not_and, not_exists]
      exact fun _ _ files opens => opens.not_fault wanted _ opened
    | done leveled chose opens => exact iff_of_true rfl ⟨⟨_, leveled⟩, ⟨_, chose⟩, _, opens⟩

/-- The journal is set up as a request asks for on a host: with the level that is named, and with
the handlers in order, of which a plain console has one and the log file has one. -/
structure Arranged (host : Host) (p : Preferences) (q : Request) (s : Journal) : Prop where
  configured : s.configured = true
  level : levelOf (given q.level p.level) = .ok s.level
  levels : s.levels = quietLevels
  handlers : ∃ chosen, p.chooseTemplate host = .ok chosen ∧
    s.handlers = (q.consoleHandler? s.level (p.formatter chosen)).toList ++
      (q.fileHandler? p s.level (p.formatter chosen)).toList

theorem consoleHandlers_plain (plain : p.highlighting.truth = false) (q : Request) (level : Int)
    (f : Formatter) : consoleHandlers p q level f = (q.consoleHandler? level f).toList := by
  rw [consoleHandlers, Request.consoleHandler?, plain]
  cases q.console <;> rfl

/-- Without a fault a journal is set up as it is asked for. -/
theorem arranged_of_setUp (plain : p.highlighting.truth = false) (open_ : s.configured = false)
    (fine : (setUp host p q s).fault = none) : Arranged host p q (setUp host p q s).journal := by
  have ends := setUp_ends host p q open_
  cases h : setUp host p q s with
  | mk journal complaint fault =>
    rw [h] at ends fine
    cases ends with
    | level | template | file => cases fine
    | done leveled chose opens =>
      exact ⟨rfl, leveled, rfl, _, chose, by rw [consoleHandlers_plain plain]⟩

end Journal

end LedgerGateway.Log
