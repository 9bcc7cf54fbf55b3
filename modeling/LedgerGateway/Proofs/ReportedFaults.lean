import LedgerGateway.Proofs.ConfigSections
import LedgerGateway.Proofs.ServerStart
import LedgerGateway.Proofs.Utf8Decoding

/-!
# Which faults of a configuration are reported

A configuration that cannot be loaded should be reported as such. This holds but for tables that
break the reading off, for files that are no text or hold what the reader of documents gives up on,
and for paths that lead to no file. The variables of the environment are always reported on. What is
not reported is not caught either: it breaks the start of the server off.

* `FileBreaksOff` — the contents that break the loading off.
* `faults_reported` — what is reported, of tables, of files and at the start of the server.
-/

namespace LedgerGateway.Config

open Hex (Bytes)
open Text.Utf8 (encode)

/-! ## Steps -/

/-- The variables of the environment are reported on. -/
theorem reported_applyEnv (depth : Nat) (env : List (String × String)) (c : NodeConfig) :
    Reported (applyEnv depth env c) := by
  rw [applyEnv]
  dsimp only
  cases setVariable? env "SETH_RPC_PORT" with
  | none => exact reported_ok _
  | some s => exact reported_map.2 (reported_readPort_iff.2 (not_unreportable_text depth s))

theorem reported_table_iff (depth : Nat) (d : Defaults) (env : List (String × String))
    (entries : List (String × Datum)) :
    Reported (ofDatum depth (.table entries) d >>= applyEnv depth env) ↔
      ¬ BreaksOff depth d entries := by
  rw [reported_bind, reported_ofDatum_iff]
  exact and_iff_left fun c _ => reported_applyEnv depth env c

/-- The content of a file breaks the loading off: it is no text, or one that the reader of documents
gives up on, or its table breaks the reading off. -/
inductive FileBreaksOff (limits : Limits) (d : Defaults) (content : Bytes) : Prop where
  | noText : (∀ s, content ≠ encode s) → FileBreaksOff limits d content
  | givenUp {s : String} {fault : Toml.Fault} : content = encode s →
      Toml.read limits.document s.toList = .error fault → fault ≠ .invalid →
      FileBreaksOff limits d content
  | table {s : String} {entries : List (String × Datum)} : content = encode s →
      Toml.read limits.document s.toList = .ok entries → BreaksOff limits.port d entries →
      FileBreaksOff limits d content

theorem fileBreaksOff_encode_iff {limits : Limits} {d : Defaults} {s : String} :
    FileBreaksOff limits d (encode s) ↔
      (∃ fault, Toml.read limits.document s.toList = .error fault ∧ fault ≠ .invalid) ∨
        ∃ entries, Toml.read limits.document s.toList = .ok entries ∧
          BreaksOff limits.port d entries := by
  constructor
  · intro breaks
    cases breaks with
    | noText none => exact absurd rfl (none s)
    | givenUp same read other =>
      obtain rfl := Text.Utf8.encode_injective same
      exact .inl ⟨_, read, other⟩
    | table same read breaks =>
      obtain rfl := Text.Utf8.encode_injective same
      exact .inr ⟨_, read, breaks⟩
  · rintro (⟨fault, read, other⟩ | ⟨entries, read, breaks⟩)
    · exact .givenUp rfl read other
    · exact .table rfl read breaks

/-- What is wrong with the content of a file is reported, unless the content breaks the loading
off. -/
theorem reported_file_iff (limits : Limits) (d : Defaults) (env : List (String × String))
    (path : String) (content : Bytes) :
    Reported (readFile limits.document path content >>= fun data =>
        ofDatum limits.port data d >>= applyEnv limits.port env) ↔
      ¬ FileBreaksOff limits d content := by
  cases decoded : Text.Utf8.decode false content with
  | error fault =>
    have none := Text.Utf8.decode_error_iff.1 ⟨fault, decoded⟩
    refine iff_of_false ?_ (not_not_intro (.noText none))
    simp [readFile, decoded, bind, Except.bind, Fault.isReported]
  | ok cs =>
    obtain ⟨s, rfl⟩ : ∃ s : String, s.toList = cs := ⟨String.ofList cs, String.toList_ofList⟩
    obtain rfl : content = encode s := by
      rw [Text.Utf8.decode_eq_ok_iff.1 decoded, String.ofList_toList]
    rw [fileBreaksOff_encode_iff]
    cases read : Toml.read limits.document s.toList with
    | ok entries =>
      have step : readFile limits.document path (encode s) = .ok (.table entries) := by
        simp only [readFile, decoded, read]
      rw [step]
      refine (reported_table_iff limits.port d env entries).trans ?_
      simp
    | error fault =>
      cases fault <;> simp [readFile, decoded, read, bind, Except.bind, Fault.isReported]

/-- What is wrong with the file at a path is reported, unless the path leads to no file or the
content of the file breaks the loading off. -/
theorem reported_load_iff (limits : Limits) (d : Defaults) (files : Files)
    (env : List (String × String)) (path : Option String) :
    Reported (load limits files env path d).value ↔
      ¬ ((∃ fault, findFile? files (.ofText (resolvePath env path)) = .error fault) ∨
        ∃ content, findFile? files (.ofText (resolvePath env path)) = .ok (some content) ∧
          FileBreaksOff limits d content) := by
  rw [load, loadFrom]
  cases found : findFile? files (.ofText (resolvePath env path)) with
  | error fault => simp [Fault.isReported]
  | ok content? =>
    cases content? with
    | none => simpa using reported_applyEnv limits.port env (.default d)
    | some content => simpa using reported_file_iff limits d env (resolvePath env path) content

/-! ## The start of the server -/

open Cli Cli.Serve

/-- A run of the command breaks off with a fault of the configuration if the start ends with it and
it is not reported. -/
theorem crash_endServe_iff {ending : Serve.Ending} {fault : Fault} :
    (endServe ending).crash = some (.serve (.config fault)) ↔
      ending.outcome = .error (.config fault) ∧ fault.isReported = false := by
  rw [endServe]
  cases outcome : ending.outcome with
  | ok launch => simp [Ending.success, Ending.printing]
  | error other =>
    cases other with
    | config own =>
      cases reported : own.isReported with
      | true =>
        simp only [reported, if_true, Ending.failure, Ending.printing]
        refine iff_of_false (by simp) ?_
        rintro ⟨same, other⟩
        obtain rfl := Fault.config.inj (Except.error.inj same)
        rw [reported] at other
        cases other
      | false =>
        simp only [reported, Bool.false_eq_true, if_false, Ending.broken]
        constructor
        · intro same
          obtain rfl := Fault.config.inj (Crash.serve.inj (Option.some.inj same))
          exact ⟨rfl, reported⟩
        · rintro ⟨same, -⟩
          obtain rfl := Fault.config.inj (Except.error.inj same)
          rfl
    | bind => simp [Ending.misuse, Ending.printing]
    | ledger => simp [Ending.failure, Ending.printing]
    | urlNotText => simp [Ending.broken]
    | log => simp [Ending.broken]
    | unwritable => simp [Ending.broken]

/-- The command breaks off with a fault of the configuration exactly if the fault that stops the
loading is not reported. -/
theorem serve_breaks_off_iff (limits : Serve.Limits) (log : Option Log.Startup) (d : Defaults)
    (files : Files) (env : List (String × String)) (options : Options) :
    (∃ fault, (endServe (serve limits log d files env options).value).crash
        = some (.serve (.config fault))) ↔
      ¬ Reported (load limits.toLimits files env options.config d).value := by
  simp only [crash_endServe_iff, value_serve]
  cases loaded : (load limits.toLimits files env options.config d).value with
  | error fault => simp
  | ok c =>
    refine iff_of_false ?_ (not_not_intro (reported_ok c))
    rintro ⟨fault, stopped, -⟩
    have ends := ends_serveWith limits log options c
    rw [stopped] at ends
    cases ends

/-- **Which faults of a configuration are reported.** For a table of sections all of them are,
unless the table breaks the reading off. For a path they are, unless the path leads to no file or
the content of the file breaks the loading off. The start of the server breaks off in just these
cases. -/
theorem faults_reported (limits : Serve.Limits) (d : Defaults) :
    (∀ env entries,
      Reported (ofDatum limits.port (.table entries) d >>= applyEnv limits.port env) ↔
        ¬ BreaksOff limits.port d entries) ∧
    (∀ files env path, Reported (load limits.toLimits files env path d).value ↔
      ¬ ((∃ fault, findFile? files (.ofText (resolvePath env path)) = .error fault) ∨
        ∃ content, findFile? files (.ofText (resolvePath env path)) = .ok (some content) ∧
          FileBreaksOff limits.toLimits d content)) ∧
    ∀ log files env options,
      (∃ fault, (endServe (serve limits log d files env options).value).crash
          = some (.serve (.config fault))) ↔
        ¬ Reported (load limits.toLimits files env options.config d).value := by
  refine ⟨?_, ?_, ?_⟩
  · exact reported_table_iff limits.port d
  · exact reported_load_iff limits.toLimits d
  · intro log
    exact serve_breaks_off_iff limits log d

/-- An infinite port is read and not reported on, and so is a section that is no table. -/
theorem not_reported_infinite_port :
    ¬ Reported (ofDatum 980 (.table [("rpc", .table [("http", .table
        [("port", .float (.infinite false))])])]) >>= applyEnv 980 []) ∧
      ¬ Reported (ofDatum 980 (.table [("node", .int 5)]) >>= applyEnv 980 []) := by
  constructor
  · intro h
    exact absurd (h .infinitePort rfl) (by decide)
  · intro h
    exact absurd (h (.noTable "int") rfl) (by decide)

end LedgerGateway.Config
