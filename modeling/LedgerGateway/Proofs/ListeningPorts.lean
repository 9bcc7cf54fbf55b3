import LedgerGateway.Proofs.Precedence
import LedgerGateway.Proofs.UsualRecords

/-!
# The port that the server listens on

The server should be started on a port from 1 to 65535, or else the run should end with an error
that is reported. The port of a file and the one of the environment are checked. The address of the
command line is not, and neither is the default port where there is no file. A run that does not
start the server may also break off without a report: for a fault of the configuration that is not
reported, for a log that is not set up, for a URL of the ledger that is no text, and for a host that
cannot be shown.

* `port_of_load` — the port of a configuration that is loaded.
* `Safe` — a run as it should be, and `safe_runServe_iff` — which runs are.
-/

namespace LedgerGateway.Cli

open Config (Defaults NodeConfig Reported load findFile? resolvePath)
open Serve

/-- The integer is a port. -/
def InRange (n : Int) : Prop := 1 ≤ n ∧ n ≤ 65535

/-! ## Where the port comes from -/

section Sources

variable {limits : Config.Limits} {d : Defaults} {files : Files} {env : List (String × String)}

/-- The port of a configuration that is loaded has been checked, unless it is the default one. -/
theorem port_of_load {path : Option String} {c : NodeConfig}
    (h : (load limits files env path d).value = .ok c) :
    InRange c.http.port ∨
      findFile? files (.ofText (resolvePath env path)) = .ok none ∧
        (∀ v, env.lookup "SETH_RPC_PORT" = some v → v = "") ∧ c.http.port = d.port := by
  obtain ⟨p, s, resolves, given_, layered⟩ := Config.load_eq_ok_iff.1 h
  obtain rfl := Config.resolves_iff.1 resolves
  obtain ⟨v, counts, denotes⟩ := layered.port
  by_cases unset : ∀ v, env.lookup "SETH_RPC_PORT" = some v → v = ""
  · have own : Config.givenPort d s.transport = v := by
      have counts := Config.layer_iff.1 counts
      rwa [Config.setVariable?_eq_none_iff.2 unset] at counts
    subst own
    cases given_ with
    | missing found => exact .inr ⟨found, unset, denotes.unique (.int d.port)⟩
    | read _ _ _ isPort =>
      obtain rfl := denotes.unique isPort.1
      exact .inl isPort.2
  · push Not at unset
    obtain ⟨w, found, some_⟩ := unset
    exact .inl (layered.range w found some_)

end Sources

variable {d : Defaults} {s : Surroundings} {a : Arguments}

/-- A port that is not checked: the one of the address of the command line, or else the default one
if there is neither a file nor a variable. -/
inductive Unchecked (d : Defaults) (s : Surroundings) (a : Arguments) : Int → Prop where
  | bound {address host : String} {port : Int} : nonempty? (a.value? .bind) = some address →
      BindsTo address host port → Unchecked d s a port
  | default : nonempty? (a.value? .bind) = none →
      findFile? s.files (.ofText (resolvePath s.env (a.value? .config))) = .ok none →
      (∀ v, s.env.lookup "SETH_RPC_PORT" = some v → v = "") → Unchecked d s a d.port

/-- The run loads a configuration. -/
def Loads (d : Defaults) (s : Surroundings) (a : Arguments) (c : NodeConfig) : Prop :=
  (load s.limits.toLimits s.files s.env (a.value? .config) d).value = .ok c

/-- The run starts the server. -/
inductive Starts (d : Defaults) (s : Surroundings) (a : Arguments) : Launch → Prop where
  | served {c c' : NodeConfig} {url : String} {source : Ledger.Source} :
      serveMisuse? s.files a = none → Loads d s a c → Logs s.limits s.log (serveOptions a) c →
      Flagged (serveOptions a) c c' → c'.url = .string url → Ledger.Source.ofUrl url = .ok source →
      ShowsHost s.limits c'.http → Starts d s a (served c'.http source)

/-- The server is started on a port that has been checked or on one of those that are not. -/
theorem Starts.port {launch : Launch} (h : Starts d s a launch) :
    InRange launch.port ∨ Unchecked d s a launch.port := by
  obtain ⟨-, loaded, -, flagged, -, -, -⟩ := h
  show InRange (NodeConfig.http _).port ∨ Unchecked d s a (NodeConfig.http _).port
  obtain ⟨empty, kept⟩ | ⟨address, host, given_, binds⟩ := flagged.http.port_cases
  · rw [kept]
    refine (port_of_load loaded).imp_right ?_
    rintro ⟨missing, unset, same⟩
    rw [same]
    exact .default empty missing unset
  · exact .inr (.bound given_ binds)

/-! ## Runs as they should be -/

/-- The run is as it should be: the server is started on a port, or else the run ends with an error
that is reported. -/
structure Safe (e : Ending) : Prop where
  port : ∀ launch, .startServer launch ∈ e.calls → InRange launch.port
  otherwise_ : (∀ launch, .startServer launch ∉ e.calls) →
    e.crash = none ∧ (e.code = 1 ∨ e.code = 2)

theorem safe_iff_of_not_started {e : Ending} (h : ∀ launch, .startServer launch ∉ e.calls) :
    Safe e ↔ e.crash = none ∧ (e.code = 1 ∨ e.code = 2) := by
  constructor
  · intro safe
    exact safe.otherwise_ h
  · intro reported
    exact ⟨fun launch started => absurd started (h launch), fun _ => reported⟩

/-- The start of the server ended as it should. -/
def Sound : Except Serve.Fault Launch → Prop
  | .ok launch => InRange launch.port
  | .error (.bind _) => True
  | .error (.ledger _) => True
  | .error (.config fault) => fault.isReported
  | .error (.urlNotText _) => False
  | .error (.log _) => False
  | .error (.unwritable _) => False

theorem safe_endServe_iff (ending : Serve.Ending) :
    Safe (endServe ending) ↔ Sound ending.outcome := by
  have quiet : ∀ launch, Call.startServer launch ∉ ending.level.toList.map Call.setUpLog := by simp
  rw [endServe]
  cases ending.outcome with
  | ok launch =>
    constructor
    · intro safe
      exact safe.port launch (List.mem_append_right _ List.mem_cons_self)
    · intro range
      refine ⟨fun launch' started => ?_, fun none => ?_⟩
      · rcases List.mem_append.1 started with early | last
        · exact absurd early (quiet launch')
        · obtain rfl := Call.startServer.inj (List.mem_singleton.1 last)
          exact range
      · exact absurd (List.mem_append_right _ List.mem_cons_self) (none launch)
  | error fault =>
    cases fault with
    | bind fault =>
      exact iff_of_true ((safe_iff_of_not_started quiet).2 ⟨rfl, .inr rfl⟩) trivial
    | ledger fault =>
      exact iff_of_true ((safe_iff_of_not_started quiet).2 ⟨rfl, .inl rfl⟩) trivial
    | urlNotText | log | unwritable =>
      refine iff_of_false (fun safe => ?_) id
      exact absurd ((safe_iff_of_not_started quiet).1 safe).1 (by simp [Ending.broken])
    | config fault =>
      cases reported : fault.isReported with
      | true =>
        simp only [reported, if_true]
        exact iff_of_true ((safe_iff_of_not_started quiet).2 ⟨rfl, .inl rfl⟩) reported
      | false =>
        simp only [reported, Bool.false_eq_true, if_false]
        refine iff_of_false (fun safe => ?_) (by simp [Sound, reported])
        exact absurd ((safe_iff_of_not_started quiet).1 safe).1 (by simp [Ending.broken])

/-- The run breaks off without a report: the path of the configuration is none, a fault of the
configuration is not reported, the log is not set up, the URL of the ledger is no text, or the host
cannot be shown. -/
inductive BreaksDown (d : Defaults) (s : Surroundings) (a : Arguments) : Prop where
  | configPath : configTrouble? s.files ((a.value? .config).getD "") = some .nul →
      BreaksDown d s a
  | config : serveMisuse? s.files a = none →
      ¬ Reported (load s.limits.toLimits s.files s.env (a.value? .config) d).value →
      BreaksDown d s a
  | log {c : NodeConfig} : serveMisuse? s.files a = none → Loads d s a c →
      ¬ Logs s.limits s.log (serveOptions a) c → BreaksDown d s a
  | urlNotText {c c' : NodeConfig} : serveMisuse? s.files a = none → Loads d s a c →
      Logs s.limits s.log (serveOptions a) c → Flagged (serveOptions a) c c' →
      (∀ url, c'.url ≠ .string url) → BreaksDown d s a
  | unwritable {c c' : NodeConfig} {url : String} {source : Ledger.Source} :
      serveMisuse? s.files a = none → Loads d s a c → Logs s.limits s.log (serveOptions a) c →
      Flagged (serveOptions a) c c' → c'.url = .string url → Ledger.Source.ofUrl url = .ok source →
      ¬ ShowsHost s.limits c'.http → BreaksDown d s a

/-- The run starts the server on an integer out of the range, or it breaks off without a report. -/
def GoesWrong (d : Defaults) (s : Surroundings) (a : Arguments) : Prop :=
  (∃ launch, Starts d s a launch ∧ ¬ InRange launch.port) ∨ BreaksDown d s a

/-- Arguments that are refused end the run with an error that is reported, unless the path of the
configuration is none. -/
theorem safe_misuse_iff {ending : Ending} (h : serveMisuse? s.files a = some ending) :
    Safe ending ↔ configTrouble? s.files ((a.value? .config).getD "") ≠ some .nul := by
  have quiet : ∀ launch, Call.startServer launch ∉ ([] : List Call) := by simp
  have misused (p : Place) (fault : UsageFault) : Safe (.misuse p fault []) :=
    (safe_iff_of_not_started quiet).2 ⟨rfl, .inr rfl⟩
  rw [serveMisuse?] at h
  cases trouble : configTrouble? s.files ((a.value? .config).getD "") with
  | none =>
    simp only [trouble] at h
    split at h
    · cases h
    · obtain rfl := Option.some.inj h
      exact iff_of_true (misused _ _) (by simp)
  | some own =>
    simp only [trouble] at h
    split at h
    · next nul =>
      obtain rfl := Option.some.inj h
      refine iff_of_false (fun safe => ?_) (not_not_intro nul)
      exact absurd ((safe_iff_of_not_started quiet).1 safe).1 (by simp [Ending.broken])
    · next _ _ other same =>
      obtain rfl := Option.some.inj h
      obtain rfl := Option.some.inj same
      exact iff_of_true (misused _ _) fun eq => other (Option.some.inj eq)
    · next missing => cases missing

theorem configTrouble?_of_fine (fine : serveMisuse? s.files a = none) :
    configTrouble? s.files ((a.value? .config).getD "") = none := by
  rw [serveMisuse?] at fine
  cases trouble : configTrouble? s.files ((a.value? .config).getD "") with
  | none => rfl
  | some own => cases own <;> simp [trouble] at fine

section Loaded

variable {c : NodeConfig} (fine : serveMisuse? s.files a = none) (loaded : Loads d s a c)

include fine loaded

theorem starts_iff {launch : Launch} :
    Starts d s a launch ↔ Logs s.limits s.log (serveOptions a) c ∧
      ∃ c', Flagged (serveOptions a) c c' ∧
        ∃ url source, c'.url = .string url ∧ Ledger.Source.ofUrl url = .ok source ∧
          ShowsHost s.limits c'.http ∧ Serve.served c'.http source = launch := by
  constructor
  · rintro ⟨-, loaded', logs, flagged, isUrl, found, shown⟩
    obtain rfl := Except.ok.inj (loaded.symm.trans loaded')
    exact ⟨logs, _, flagged, _, _, isUrl, found, shown, rfl⟩
  · rintro ⟨logs, c', flagged, url, source, isUrl, found, shown, rfl⟩
    exact .served fine loaded logs flagged isUrl found shown

theorem breaksDown_iff :
    BreaksDown d s a ↔ ¬ Logs s.limits s.log (serveOptions a) c ∨
      Logs s.limits s.log (serveOptions a) c ∧ ∃ c', Flagged (serveOptions a) c c' ∧
        ((∀ url, c'.url ≠ .string url) ∨ ∃ url source, c'.url = .string url ∧
          Ledger.Source.ofUrl url = .ok source ∧ ¬ ShowsHost s.limits c'.http) := by
  constructor
  · intro breaks
    cases breaks with
    | configPath nul =>
      rw [configTrouble?_of_fine fine] at nul
      cases nul
    | config _ unreported =>
      rw [show (load s.limits.toLimits s.files s.env (a.value? .config) d).value = .ok c
        from loaded] at unreported
      exact absurd (Config.reported_ok c) unreported
    | log _ loaded' unlogged =>
      obtain rfl := Except.ok.inj (loaded.symm.trans loaded')
      exact .inl unlogged
    | urlNotText _ loaded' logs flagged noText =>
      obtain rfl := Except.ok.inj (loaded.symm.trans loaded')
      exact .inr ⟨logs, _, flagged, .inl noText⟩
    | unwritable _ loaded' logs flagged isUrl found hidden =>
      obtain rfl := Except.ok.inj (loaded.symm.trans loaded')
      exact .inr ⟨logs, _, flagged, .inr ⟨_, _, isUrl, found, hidden⟩⟩
  · rintro (unlogged | ⟨logs, c', flagged, noText | ⟨url, source, isUrl, found, hidden⟩⟩)
    · exact .log fine loaded unlogged
    · exact .urlNotText fine loaded logs flagged noText
    · exact .unwritable fine loaded logs flagged isUrl found hidden

/-- With a configuration loaded, the start is sound but for a port out of the range and for what
breaks it off. -/
theorem sound_serveWith_iff :
    Sound (serveWith s.limits s.log (serveOptions a) c).value.outcome ↔ ¬ GoesWrong d s a := by
  simp only [GoesWrong, breaksDown_iff fine loaded, starts_iff fine loaded]
  have ends := ends_serveWith s.limits s.log (serveOptions a) c
  generalize (serveWith s.limits s.log (serveOptions a) c).value.outcome = outcome at ends ⊢
  cases ends with
  | noLog unlogged => exact iff_of_false id (not_not_intro (.inr (.inl unlogged)))
  | noAddress logs unflagged => simp [Sound, logs, unflagged]
  | urlNotText logs flagged noText =>
    exact iff_of_false id (not_not_intro (.inr (.inr ⟨logs, _, flagged, .inl noText⟩)))
  | noLedger logs flagged isUrl refused =>
    simp only [flagged.exists_iff]
    simp [Sound, logs, isUrl, refused]
  | unwritable logs flagged isUrl found hidden =>
    exact iff_of_false id
      (not_not_intro (.inr (.inr ⟨logs, _, flagged, .inr ⟨_, _, isUrl, found, hidden⟩⟩)))
  | started logs flagged isUrl found shown =>
    simp only [flagged.exists_iff]
    constructor
    · rintro range (⟨_, ⟨-, url, source, isUrl', found', -, rfl⟩, outside⟩ | unlogged | ⟨-, noText |
        ⟨_, _, _, _, hidden⟩⟩)
      · obtain rfl := Datum.string.inj (isUrl.symm.trans isUrl')
        obtain rfl := Except.ok.inj (found.symm.trans found')
        exact outside range
      · exact unlogged logs
      · exact noText _ isUrl
      · exact hidden shown
    · intro whole
      by_contra outside
      exact whole (.inl ⟨_, ⟨logs, _, _, isUrl, found, shown, rfl⟩, outside⟩)

end Loaded

/-! ## The whole run -/

theorem value_runServe (d : Defaults) (s : Surroundings) (a : Arguments) :
    (runServe d s a).value =
      (serveMisuse? s.files a).getD
        (endServe (serve s.limits s.log d s.files s.env (serveOptions a)).value) := by
  rw [runServe]
  cases serveMisuse? s.files a <;> rfl

/-- A run with arguments that are refused is as it should be, unless it breaks off. -/
theorem safe_of_misuse_iff {ending : Ending} (misused : serveMisuse? s.files a = some ending) :
    Safe (runServe d s a).value ↔ ¬ GoesWrong d s a := by
  have other {P : Prop} : serveMisuse? s.files a = none → P := by simp [misused]
  rw [value_runServe, misused, Option.getD_some, safe_misuse_iff misused]
  refine not_congr ⟨fun nul => .inr (.configPath nul), ?_⟩
  rintro (⟨launch, ⟨fine, -⟩, -⟩ | breaks)
  · exact other fine
  · cases breaks with
    | configPath nul => exact nul
    | config fine => exact other fine
    | log fine => exact other fine
    | urlNotText fine => exact other fine
    | unwritable fine => exact other fine

/-- A run without a configuration is as it should be if the fault is reported. -/
theorem safe_of_unloaded_iff (fine : serveMisuse? s.files a = none) {fault : Config.Fault}
    (failed : (load s.limits.toLimits s.files s.env (a.value? .config) d).value = .error fault) :
    Safe (runServe d s a).value ↔ ¬ GoesWrong d s a := by
  have unloaded {c : NodeConfig} {P : Prop} : Loads d s a c → P := by simp [Loads, failed]
  have asked : (serveOptions a).config = a.value? .config := rfl
  have reported : Sound (.error (.config fault)) ↔
      Reported (load s.limits.toLimits s.files s.env (a.value? .config) d).value := by
    rw [failed, Config.reported_error]
    rfl
  rw [value_runServe, fine, Option.getD_none, safe_endServe_iff, value_serve, asked]
  simp only [failed]
  refine reported.trans ⟨?_, ?_⟩
  · rintro reported (⟨launch, ⟨-, loaded, -⟩, -⟩ | breaks)
    · exact unloaded loaded
    · cases breaks with
      | configPath nul =>
        rw [configTrouble?_of_fine fine] at nul
        cases nul
      | config _ unreported => exact unreported reported
      | log _ loaded => exact unloaded loaded
      | urlNotText _ loaded => exact unloaded loaded
      | unwritable _ loaded => exact unloaded loaded
  · intro whole
    by_contra unreported
    exact whole (.inr (.config fine unreported))

theorem safe_of_loaded_iff (fine : serveMisuse? s.files a = none) {c : NodeConfig}
    (loaded : Loads d s a c) : Safe (runServe d s a).value ↔ ¬ GoesWrong d s a := by
  have asked : (serveOptions a).config = a.value? .config := rfl
  have read : (load s.limits.toLimits s.files s.env (a.value? .config) d).value = .ok c := loaded
  rw [value_runServe, fine, Option.getD_none, safe_endServe_iff, value_serve, asked]
  simp only [read]
  exact sound_serveWith_iff fine loaded

/-- **Which runs are as they should be.** All of them but those that start the server on a port that
is out of the range and not checked, and those that break off. -/
theorem safe_runServe_iff (d : Defaults) (s : Surroundings) (a : Arguments) :
    Safe (runServe d s a).value ↔
      ¬ ((∃ launch, Starts d s a launch ∧ Unchecked d s a launch.port ∧ ¬ InRange launch.port) ∨
        BreaksDown d s a) := by
  have unchecked : (∃ launch, Starts d s a launch ∧ Unchecked d s a launch.port ∧
      ¬ InRange launch.port) ↔ ∃ launch, Starts d s a launch ∧ ¬ InRange launch.port := by
    refine exists_congr fun launch => and_congr_right fun starts => and_iff_right_of_imp ?_
    exact starts.port.resolve_left
  rw [unchecked, ← GoesWrong]
  cases fine : serveMisuse? s.files a with
  | some ending => exact safe_of_misuse_iff fine
  | none =>
    cases loaded : (load s.limits.toLimits s.files s.env (a.value? .config) d).value with
    | error fault => exact safe_of_unloaded_iff fine loaded
    | ok c => exact safe_of_loaded_iff fine loaded

/-- Where there are no files, the path that is usual leads nowhere. -/
theorem findFile?_usual : findFile? .empty (.ofText "config.toml") = .ok none := by
  have parts : "config.toml".splitOn "/" = ["config.toml"] := by
    rw [String.splitOn, if_neg (by decide)]
    iterate 11 rw [String.splitOnAux, if_neg (by decide), if_neg (by decide)]
    rw [String.splitOnAux]
    rfl
  have path : Files.Path.ofText "config.toml" = ⟨"", ["config.toml"]⟩ := by
    simp [Files.Path.ofText, Files.Path.stepsOf, parts, Files.Path.anchorOf]
  have text : (Files.Path.mk "" ["config.toml"]).text = "config.toml" := rfl
  have plain : Files.textTrouble? "config.toml" = none := by
    simp [Files.textTrouble?]
    decide
  have missing : Files.followPath .empty ⟨"", ["config.toml"]⟩ = .error .missing := by
    rw [Files.followPath, text, Files.find, plain]
    rfl
  rw [path, findFile?, missing]

/-- A log on a plain console. -/
def plainStartup : Log.Startup where
  preferences :=
    { level := .text Settings.builtinLevel (.string Settings.builtinLevel)
      format := .text "" (.string Settings.builtinFormat)
      dateFormat := .text Settings.builtinDateFormat (.string Settings.builtinDateFormat)
      highlighting := .flag false (.bool true)
      fileOutput := .flag false (.bool true)
      filePath := .text Settings.builtinLogPath (.string Settings.builtinLogPath) }
  journal := .start .empty
  host := Log.plainHost

/-- Surroundings without files and without variables. -/
def bareSurroundings : Surroundings where
  files := .empty
  env := []
  post := fun _ _ => .error (.transport "")
  room := .thousand
  limits := .thousand
  log := some plainStartup

/-- Arguments that ask to listen on an integer that is no port. -/
def outsideArguments : Arguments := ⟨[⟨.bind, some "0.0.0.0:99999"⟩], []⟩

/-- The address of the command line starts the server on an integer that is no port. -/
theorem not_safe_bound_outside :
    ¬ Safe (runServe .builtin bareSurroundings outsideArguments).value := by
  have fine : serveMisuse? bareSurroundings.files outsideArguments = none := rfl
  have loaded : Loads .builtin bareSurroundings outsideArguments (.default .builtin) := by
    show (load bareSurroundings.limits.toLimits .empty [] none .builtin).value = _
    rw [load, Config.loadFrom, show resolvePath [] none = "config.toml" from rfl, findFile?_usual]
    rfl
  have binds : BindsTo "0.0.0.0:99999" "0.0.0.0" 99999 := parseBind_eq_ok_iff.1 rfl
  have flagged : Flagged (serveOptions outsideArguments) (.default .builtin)
      { NodeConfig.default .builtin with
        http := { (NodeConfig.default .builtin).http with
          host := .string "0.0.0.0", port := 99999 } } :=
    ⟨rfl, .bound rfl binds, rfl⟩
  have logs : Logs bareSurroundings.limits bareSurroundings.log (serveOptions outsideArguments)
      (.default .builtin) := by
    intro startup same
    obtain rfl := Option.some.inj same
    exact ⟨_, rfl⟩
  have starts := Starts.served fine loaded logs flagged rfl rfl (.inl ⟨"0.0.0.0", rfl⟩)
  intro safe
  refine (safe_of_loaded_iff fine loaded).1 safe (.inl ⟨_, starts, ?_⟩)
  rintro ⟨-, above⟩
  exact absurd above (by decide)

end LedgerGateway.Cli
