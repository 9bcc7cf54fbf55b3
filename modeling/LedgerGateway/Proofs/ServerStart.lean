import LedgerGateway.Cli.Program
import LedgerGateway.Proofs.WritableLiterals
import Mathlib.Data.List.TakeWhile

/-!
# How the start of the server ends

With the configuration loaded the start goes one of six ways. The log is not set up, the address of
the command line is none, the URL of the ledger is no text or names no ledger, the host cannot be
shown in the log, or the web server is started with what the configuration and the command line say.

* `BindsTo` — the host and the port of an address, and `parseBind_eq_ok_iff`.
* `Flagged` — what the command line changes in a configuration, and `override_eq_ok_iff`.
* `Logs` — the log is set up with the level that counts.
* `Ends` — the ways of the start, and `ends_serveWith`.
-/

namespace LedgerGateway.Cli

/-! ## Addresses -/

/-- The address is a host, a colon and a port without colon. -/
def BindsTo (address host : String) (port : Int) : Prop :=
  ∃ digits, address.toList = host.toList ++ ':' :: digits ∧ ':' ∉ digits ∧ host ≠ "" ∧
    Decimal.readInt (String.ofList digits) = some port

/-- From the end, a text without colon is passed whole. -/
theorem pass_noColon {cs : List Char} (noColon : ':' ∉ cs) :
    ∀ c ∈ cs.reverse, decide (c ≠ ':') = true := by
  intro c mem
  rw [decide_eq_true_eq]
  rintro rfl
  exact noColon (List.mem_reverse.1 mem)

theorem behind_last_colon {front digits : List Char} (noColon : ':' ∉ digits) :
    ((front ++ ':' :: digits).reverse.takeWhile (· ≠ ':')).reverse = digits := by
  rw [List.reverse_append, List.reverse_cons, List.append_assoc, List.singleton_append,
    List.takeWhile_append_of_pos (pass_noColon noColon)]
  simp

theorem exists_last_colon {cs : List Char} (colon : ':' ∈ cs) :
    ∃ front digits, cs = front ++ ':' :: digits ∧ ':' ∉ digits := by
  obtain ⟨behind, front, parts, noColon⟩ := List.eq_append_cons_of_mem (List.mem_reverse.2 colon)
  refine ⟨front.reverse, behind.reverse, ?_, fun mem => noColon (List.mem_reverse.1 mem)⟩
  rw [← List.reverse_reverse cs, parts]
  simp

theorem parseBind_of_split {address : String} {front digits : List Char}
    (split : address.toList = front ++ ':' :: digits) (noColon : ':' ∉ digits) :
    parseBind address =
      if front.isEmpty then .error (.noHostAndPort address)
      else
        (Decimal.readInt (String.ofList digits)).elim (.error (.noPort address))
          fun n => .ok (String.ofList front, n) := by
  have host : (front ++ ':' :: digits).take
      ((front ++ ':' :: digits).length - digits.length - 1) = front := by
    rw [List.length_append, List.length_cons, List.take_append_of_le_length (by omega),
      List.take_of_length_le (by omega)]
  simp only [parseBind, split, behind_last_colon noColon, host]
  cases Decimal.readInt (String.ofList digits) <;> rfl

theorem parseBind_of_not_mem {address : String} (noColon : ':' ∉ address.toList) :
    parseBind address = .error (.noHostAndPort address) := by
  have whole : (address.toList.reverse.takeWhile (· ≠ ':')).reverse = address.toList := by
    rw [List.takeWhile_eq_self_iff.2 (pass_noColon noColon), List.reverse_reverse]
  simp only [parseBind, whole, Nat.sub_self, Nat.zero_sub, List.take_zero, List.isEmpty_nil,
    if_true]

/-- **Which addresses are read.** -/
theorem parseBind_eq_ok_iff {address host : String} {port : Int} :
    parseBind address = .ok (host, port) ↔ BindsTo address host port := by
  constructor
  · intro h
    by_cases colon : ':' ∈ address.toList
    · obtain ⟨front, digits, split, noColon⟩ := exists_last_colon colon
      rw [parseBind_of_split split noColon] at h
      split at h
      · cases h
      next some_ =>
      cases read : Decimal.readInt (String.ofList digits) with
      | none =>
        rw [read] at h
        cases h
      | some n =>
        rw [read] at h
        obtain ⟨rfl, rfl⟩ := Prod.mk.inj (Except.ok.inj h)
        refine ⟨digits, by rwa [String.toList_ofList], noColon, ?_, read⟩
        intro empty
        rw [← String.toList_eq_nil_iff, String.toList_ofList] at empty
        exact some_ (by rw [empty]; rfl)
    · rw [parseBind_of_not_mem colon] at h
      cases h
  · rintro ⟨digits, split, noColon, some_, read⟩
    have front : host.toList.isEmpty = false := by
      rw [List.isEmpty_eq_false_iff, ne_eq, String.toList_eq_nil_iff]
      exact some_
    rw [parseBind_of_split split noColon, front, read, String.ofList_toList]
    rfl

namespace Serve

open Config (NodeConfig HttpSettings)

/-! ## The command line -/

/-- The address of the command line, if it is not empty, replaces the host and the port. -/
inductive Listens (asked : Option String) (http : HttpSettings) : HttpSettings → Prop where
  | kept : nonempty? asked = none → Listens asked http http
  | bound {address host : String} {port : Int} : nonempty? asked = some address →
      BindsTo address host port → Listens asked http { http with host := .string host, port }

/-- The command line changes the configuration: the address replaces the host and the port, the URL
the one of the ledger, and nothing else changes. -/
structure Flagged (options : Options) (c c' : NodeConfig) : Prop where
  logLevel : c'.logLevel = c.logLevel
  http : Listens options.bind c.http c'.http
  url : c'.url = (nonempty? options.connect).elim c.url .string

/-- The port is kept, or it is the one of the address. -/
theorem Listens.port_cases {asked : Option String} {http http' : HttpSettings}
    (h : Listens asked http http') :
    (nonempty? asked = none ∧ http'.port = http.port) ∨
      ∃ address host, nonempty? asked = some address ∧ BindsTo address host http'.port := by
  cases h with
  | kept empty => exact .inl ⟨empty, rfl⟩
  | bound given_ binds => exact .inr ⟨_, _, given_, binds⟩

theorem listenOn_eq_ok_iff {asked : Option String} {http http' : HttpSettings} :
    listenOn asked http = .ok http' ↔ Listens asked http http' := by
  constructor
  · intro h
    rw [listenOn] at h
    split at h
    · next empty =>
      obtain rfl := Except.ok.inj h
      exact .kept empty
    · next address given_ =>
      cases read : parseBind address with
      | error fault =>
        rw [read] at h
        cases h
      | ok found =>
        rw [read] at h
        obtain rfl := Except.ok.inj h
        exact .bound given_ (parseBind_eq_ok_iff.1 read)
  · intro h
    rw [listenOn]
    cases h with
    | kept empty => rw [empty]
    | bound given_ binds =>
      rw [given_]
      dsimp only
      rw [parseBind_eq_ok_iff.2 binds]
      rfl

/-- **What the command line changes.** -/
theorem override_eq_ok_iff {options : Options} {c c' : NodeConfig} :
    override options c = .ok c' ↔ Flagged options c c' := by
  constructor
  · intro h
    rw [override] at h
    cases listens : listenOn options.bind c.http with
    | error fault =>
      rw [listens] at h
      cases h
    | ok http =>
      rw [listens] at h
      obtain rfl := Except.ok.inj h
      exact ⟨rfl, listenOn_eq_ok_iff.1 listens, rfl⟩
  · rintro ⟨level, http, url⟩
    obtain ⟨_, http', _⟩ := c'
    subst level url
    rw [override, listenOn_eq_ok_iff.2 http]
    rfl

/-- The command line changes a configuration in one way at most. -/
theorem Flagged.unique {options : Options} {c c₁ c₂ : NodeConfig} (h : Flagged options c c₁)
    (h' : Flagged options c c₂) : c₁ = c₂ :=
  Except.ok.inj ((override_eq_ok_iff.2 h).symm.trans (override_eq_ok_iff.2 h'))

theorem Flagged.exists_iff {options : Options} {c c₁ : NodeConfig} (h : Flagged options c c₁)
    {P : NodeConfig → Prop} : (∃ c', Flagged options c c' ∧ P c') ↔ P c₁ := by
  constructor
  · rintro ⟨c', flagged, own⟩
    rwa [h.unique flagged]
  · exact fun own => ⟨c₁, h, own⟩

theorem exists_flagged_or (options : Options) (c : NodeConfig) :
    (∃ c', override options c = .ok c' ∧ Flagged options c c') ∨
      ∃ fault, override options c = .error fault ∧ ∀ c', ¬ Flagged options c c' := by
  cases changed : override options c with
  | ok c' => exact .inl ⟨c', rfl, override_eq_ok_iff.1 changed⟩
  | error fault =>
    refine .inr ⟨fault, rfl, fun c' flagged => ?_⟩
    rw [override_eq_ok_iff.2 flagged] at changed
    cases changed

/-! ## The ways of the start -/

/-- What the web server is started with for the settings of the transport and a ledger. -/
def served (http : HttpSettings) (source : Ledger.Source) : Launch :=
  ⟨http.host, http.port, policyOf http, source,
    (Rpc.MethodTable.registerAll [] Rpc.accountMethods).value⟩

/-- The level can be shown as a text, and the log is set up with it, if it is to be set up at all.
-/
def Logs (limits : Limits) (log : Option Log.Startup) (options : Options) (c : NodeConfig) : Prop :=
  ∀ startup, log = some startup →
    ∃ journal, startup.setUp limits.level (chooseLevel options.verbosity c) = .ok journal

/-- The host can be shown in the log. A text always can. -/
def ShowsHost (limits : Limits) (http : HttpSettings) : Prop :=
  (∃ s, http.host = .string s) ∨ (∃ m, http.host = .moment m) ∨ http.host.HasLiteral limits.host

section Ways

variable {limits : Limits} {log : Option Log.Startup} {options : Options} {c c' : NodeConfig}

theorem logFault?_eq_none_iff :
    logFault? limits.level log (chooseLevel options.verbosity c) = none ↔
      Logs limits log options c := by
  cases log with
  | none => simp [logFault?, Logs]
  | some startup =>
    simp only [logFault?, Logs, Option.some.injEq, forall_eq']
    cases startup.setUp limits.level (chooseLevel options.verbosity c) <;> simp

theorem logFault?_eq_some {fault : Log.StartFault}
    (failed : logFault? limits.level log (chooseLevel options.verbosity c) = some fault) :
    ¬ Logs limits log options c := by
  rw [← logFault?_eq_none_iff, failed]
  simp

theorem textFault?_eq_none_iff {http : HttpSettings} :
    http.host.textFault? limits.host = none ↔ ShowsHost limits http := by
  rw [ShowsHost, ← Datum.literalFault?_eq_none_iff]
  cases http.host <;> simp [Datum.textFault?]

/-- The ways in which the start goes on with a configuration. -/
inductive Ends (limits : Limits) (log : Option Log.Startup) (options : Options) (c : NodeConfig) :
    Except Fault Launch → Prop where
  | noLog {fault : Log.StartFault} : ¬ Logs limits log options c →
      Ends limits log options c (.error (.log fault))
  | noAddress {fault : BindFault} : Logs limits log options c → (∀ c', ¬ Flagged options c c') →
      Ends limits log options c (.error (.bind fault))
  | urlNotText {c' : NodeConfig} : Logs limits log options c → Flagged options c c' →
      (∀ url, c'.url ≠ .string url) → Ends limits log options c (.error (.urlNotText c'.url.kind))
  | noLedger {c' : NodeConfig} {url : String} {fault : Ledger.Source.Unsupported} :
      Logs limits log options c → Flagged options c c' → c'.url = .string url →
      Ledger.Source.ofUrl url = .error fault → Ends limits log options c (.error (.ledger fault))
  | unwritable {c' : NodeConfig} {url : String} {source : Ledger.Source}
      {fault : Datum.LiteralFault} : Logs limits log options c → Flagged options c c' →
      c'.url = .string url → Ledger.Source.ofUrl url = .ok source → ¬ ShowsHost limits c'.http →
      Ends limits log options c (.error (.unwritable fault))
  | started {c' : NodeConfig} {url : String} {source : Ledger.Source} :
      Logs limits log options c → Flagged options c c' → c'.url = .string url →
      Ledger.Source.ofUrl url = .ok source → ShowsHost limits c'.http →
      Ends limits log options c (.ok (served c'.http source))

/-- What the start comes to if the log is set up. -/
theorem outcome_of_logs (logs : Logs limits log options c) :
    (serveWith limits log options c).value.outcome =
      match settle options c with
      | .error fault => .error fault
      | .ok (c', url, source) => (launch limits.host c'.http url source).value := by
  simp only [serveWith, logFault?_eq_none_iff.2 logs]
  cases settle options c with
  | error fault => rfl
  | ok found =>
    obtain ⟨c', url, source⟩ := found
    rfl

theorem launch_of_shown {http : HttpSettings} (shown : ShowsHost limits http) (url : String)
    (source : Ledger.Source) :
    (launch limits.host http url source).value = .ok (served http source) := by
  simp only [launch, textFault?_eq_none_iff.2 shown]
  rfl

theorem settle_of_found {url : String} {source : Ledger.Source} (flagged : Flagged options c c')
    (isUrl : c'.url = .string url) (found : Ledger.Source.ofUrl url = .ok source) :
    settle options c = .ok (c', url, source) := by
  simp only [settle, override_eq_ok_iff.2 flagged, findLedger, isUrl, found]

/-- How the start goes on if the log is set up. -/
theorem ends_of_logs (logs : Logs limits log options c) :
    Ends limits log options c (serveWith limits log options c).value.outcome := by
  rw [outcome_of_logs logs]
  obtain ⟨c', changed, flagged⟩ | ⟨fault, refused, unflagged⟩ := exists_flagged_or options c
  · cases url : c'.url with
    | string s =>
      cases found : Ledger.Source.ofUrl s with
      | error fault =>
        have settled : settle options c = .error (.ledger fault) := by
          simp only [settle, changed, findLedger, url, found]
        rw [settled]
        exact .noLedger logs flagged url found
      | ok source =>
        rw [settle_of_found flagged url found]
        cases shown : c'.http.host.textFault? limits.host with
        | none =>
          have shows := textFault?_eq_none_iff.1 shown
          dsimp only
          rw [launch_of_shown shows]
          exact .started logs flagged url found shows
        | some fault =>
          have hidden : ¬ ShowsHost limits c'.http := by
            rw [← textFault?_eq_none_iff, shown]
            simp
          have stopped : (launch limits.host c'.http s source).value =
              .error (.unwritable fault) := by
            simp only [launch, shown]
            rfl
          dsimp only
          rw [stopped]
          exact .unwritable logs flagged url found hidden
    | _ =>
      have settled : settle options c = .error (.urlNotText c'.url.kind) := by
        simp only [settle, changed, findLedger, url]
      rw [settled]
      exact .urlNotText logs flagged (by simp [url])
  · have settled : settle options c = .error (.bind fault) := by
      simp only [settle, refused]
    rw [settled]
    exact .noAddress logs unflagged

/-- **How the start goes on.** -/
theorem ends_serveWith (limits : Limits) (log : Option Log.Startup) (options : Options)
    (c : NodeConfig) : Ends limits log options c (serveWith limits log options c).value.outcome := by
  cases failed : logFault? limits.level log (chooseLevel options.verbosity c) with
  | none => exact ends_of_logs (logFault?_eq_none_iff.1 failed)
  | some fault =>
    simp only [serveWith, failed, Traced.value_pure]
    exact .noLog (logFault?_eq_some failed)

end Ways

/-- The start goes on if a configuration is loaded. -/
theorem value_serve (limits : Limits) (log : Option Log.Startup) (d : Config.Defaults)
    (files : Files) (env : List (String × String)) (options : Options) :
    (serve limits log d files env options).value =
      match (Config.load limits.toLimits files env options.config d).value with
      | .error fault => ⟨none, .error (.config fault)⟩
      | .ok c => (serveWith limits log options c).value := by
  rw [serve, Traced.value_bind]
  cases (Config.load limits.toLimits files env options.config d).value <;> rfl

end Serve

end LedgerGateway.Cli
