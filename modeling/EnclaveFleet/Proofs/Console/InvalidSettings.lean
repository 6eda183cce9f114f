import EnclaveFleet.Proofs.Console.CommandLine
import EnclaveFleet.Proofs.Settings.Reported

/-!
# Settings that are turned down

A command that is given invalid settings reports all that is wrong with them and does nothing else.
The settings are checked first; only the command that is made to show them shows them before.

* `TurnedDown`, `Reported`: a call ends without doing anything, and says why
* `reportAfter`: the session of such a call
* `session_of_problems`: a command that loads its settings does nothing with invalid ones
* `info_of_problems`, `exitCode_info`: the command that shows the settings first
* `invalid_settings_reach_nothing`: all calls
* `invalid_settings_unreported`: environments in which the report is missing
-/
namespace EnclaveFleet.Console
set_option autoImplicit false

structure TurnedDown (r : Session Unit) : Prop where
  exitCode : r.exitCode = 1
  calls : r.calls = []
  written : r.written = []

/-- Nothing but the report is shown beside the answers. -/
structure Reported (r : Session Unit) (problems : List Problem) : Prop where
  failure : r.failure? = none
  message : ∀ time, r.shownBeside time =
    ("❌ " ++ Problem.report problems ++ "\n").escapeSurrogates

/-- The lines of the summary have no surrogates. -/
def HasPlainSummary (s : Settings) : Prop :=
  ∀ line ∈ s.summaryLines, ∀ n ∈ line.points, Points.isSurrogate n = false

instance (s : Settings) : Decidable (HasPlainSummary s) :=
  inferInstanceAs (Decidable (∀ line ∈ s.summaryLines, ∀ n ∈ line.points,
    Points.isSurrogate n = false))

/-! ## Reports -/

/-- The report of the problems, after some lines. -/
def reportAfter (lines : List String) (problems : List Problem) : Session Unit where
  outcome := .error (.exit 1)
  output := (lines.map fun line => .out (line ++ "\n")) ++
    [.out "\n", .err ("❌ " ++ Problem.report problems ++ "\n").dropEscapes, .out "\n"]

theorem turnedDown_reportAfter (lines : List String) (problems : List Problem) :
    TurnedDown (reportAfter lines problems) := ⟨rfl, rfl, rfl⟩

theorem shownBeside_reportAfter (lines : List String) (problems : List Problem) (time : String) :
    (reportAfter lines problems).shownBeside time =
      ("❌ " ++ Problem.report problems ++ "\n").dropEscapes.escapeSurrogates := by
  have hremarks : [Output.out "\n", .err ("❌ " ++ Problem.report problems ++ "\n").dropEscapes,
      .out "\n"].map (Output.remark time) =
      ["", ("❌ " ++ Problem.report problems ++ "\n").dropEscapes.escapeSurrogates, ""] := rfl
  unfold Session.shownBeside reportAfter
  simp only [List.map_append, hremarks, String.join_append, remarks_out]
  simp

theorem reported_reportAfter (lines : List String) {problems : List Problem}
    (hescape : Text.escapeChar ∉ (Problem.report problems).toList) :
    Reported (reportAfter lines problems) problems where
  failure := rfl
  message := by
    intro time
    have hmessage : Text.escapeChar ∉ ("❌ " ++ Problem.report problems).toList :=
      notMem_append.mpr ⟨by decide, hescape⟩
    rw [shownBeside_reportAfter, dropEscapes_line hmessage]

theorem report_configuration (problems : List Problem) :
    (Session.report (.configuration problems) : Session Unit) = reportAfter [] problems :=
  Session.giveUp_eq _

/-! ## Commands that load their settings -/

theorem reporting_loadSettings {w : World} {changes : List Settings.Change}
    {f : Settings → Session Unit} {problems : List Problem}
    (h : ((Settings.ofEnvironment w.environment).changed changes).check w.files =
      .error (.configuration problems)) :
    Session.reporting ((loadSettings w changes).bind f) = reportAfter [] problems := by
  rw [loadSettings_eq, h, Session.ofExcept_error_bind, ← report_configuration]
  rfl

theorem session_of_problems {w : World} {log : Nat} {i : Invocation} {problems : List Problem}
    (hi : i ≠ .info)
    (h : (i.settings w).check w.files = .error (.configuration problems)) :
    i.session w log = reportAfter [] problems := by
  cases i with
  | info => exact absurd rfl hi
  | preflight => exact reporting_loadSettings h
  | synth directory => exact reporting_loadSettings h
  | userData mode => exact reporting_loadSettings h

/-! ## The command that shows the settings -/

section

variable {w : World}

theorem info_eq (w : World) :
    info w = Session.reporting ((Session.emit (.out "\n")).bind fun _ =>
      ((Settings.ofEnvironment w.environment).summaryLines.forM Session.print).bind fun _ =>
        (Session.ofExcept ((Settings.ofEnvironment w.environment).check w.files)).bind fun _ =>
          (Session.say "✅ Configuration is valid").bind fun _ => Session.say "") := rfl

theorem info_of_problems {problems : List Problem}
    (hplain : HasPlainSummary (Settings.ofEnvironment w.environment))
    (h : (Settings.ofEnvironment w.environment).check w.files =
      .error (.configuration problems)) :
    info w =
      reportAfter ("" :: (Settings.ofEnvironment w.environment).summaryLines) problems := by
  rw [info_eq, Session.forM_print hplain, h, Session.ofExcept_error_bind]
  refine (Session.reporting_of_failed rfl).trans ?_
  rw [report_configuration]
  simp [Session.bind, Session.andThen, Session.emit, Session.stop, reportAfter]

theorem info_of_not_plain
    (hplain : ¬HasPlainSummary (Settings.ofEnvironment w.environment)) :
    ∃ fault output, info w =
      { outcome := .error (.failed (.unencodable fault)), output := output } := by
  obtain ⟨fault, output, hprint⟩ := Session.forM_print_of_not hplain
  refine ⟨fault, .out "\n" :: output, ?_⟩
  rw [info_eq, hprint]
  refine (Session.reporting_of_failed rfl).trans ?_
  simp [Session.bind, Session.andThen, Session.emit, Session.stop, Session.report,
    Failure.isForeseen, Failure.isCloud]

theorem info_turnedDown {problems : List Problem}
    (h : (Settings.ofEnvironment w.environment).check w.files =
      .error (.configuration problems)) : TurnedDown (info w) := by
  by_cases hplain : HasPlainSummary (Settings.ofEnvironment w.environment)
  · rw [info_of_problems hplain h]
    exact turnedDown_reportAfter _ problems
  · obtain ⟨fault, output, hinfo⟩ := info_of_not_plain hplain
    rw [hinfo]
    exact ⟨rfl, rfl, rfl⟩

theorem exitCode_info (w : World) :
    (info w).exitCode = 0 ↔ (Settings.ofEnvironment w.environment).check w.files = .ok () ∧
      HasPlainSummary (Settings.ofEnvironment w.environment) := by
  have hone : ¬(1 : Nat) = 0 := by decide
  by_cases hplain : HasPlainSummary (Settings.ofEnvironment w.environment)
  · cases hcheck : (Settings.ofEnvironment w.environment).check w.files with
    | ok _ =>
      rw [info_eq, Session.forM_print hplain, hcheck]
      exact iff_of_true rfl ⟨rfl, hplain⟩
    | error e =>
      refine iff_of_false (fun hzero => ?_) (fun h => nomatch h.1)
      rw [info_eq, Session.forM_print hplain, hcheck, Session.ofExcept_error_bind,
        Session.reporting_of_failed rfl] at hzero
      exact hone ((Session.exitCode_report e).symm.trans hzero)
  · obtain ⟨fault, output, hinfo⟩ := info_of_not_plain hplain
    rw [hinfo]
    exact iff_of_false hone fun h => hplain h.2

end

/-! ## All commands -/

/-- Invalid settings are reported with all of their problems, and nothing is done with them. A
malformed integer is one of the problems whatever the mode of the call. -/
theorem invalid_settings_reach_nothing (w : World) (level : Option String) (log : Nat)
    (hcompletion : w.environment.nonempty w.program.completionVariable = none)
    (hlevel : threshold (level.getD w.program.logLevel) = .ok log)
    (henv : w.environment.NoEscape) :
    (∀ (i : Invocation) (problems : List Problem),
      (i.settings w).problems w.files = .ok problems →
      (∀ v ∈ Settings.integerVariables, ∀ value, w.environment.filled v.name = some value →
        Text.Numeral.parse? value.toList = none →
        .noted (Environment.malformedInteger v.name value) ∈ problems) ∧
      (problems ≠ [] →
        TurnedDown (execute w (i.words level)) ∧
        ((i = .info → HasPlainSummary (i.settings w)) →
          Reported (execute w (i.words level)) problems) ∧
        (i ≠ .info → (execute w (i.words level)).shown = "\n\n"))) ∧
    ((execute w (Invocation.info.words level)).exitCode = 0 ↔
      (Settings.ofEnvironment w.environment).check w.files = .ok () ∧
        HasPlainSummary (Settings.ofEnvironment w.environment)) := by
  refine ⟨fun i problems hproblems => ⟨?_, fun hne => ?_⟩, ?_⟩
  · intro v hv value hfilled hparse
    exact Settings.noted_of_malformed hv hfilled hparse (i.mode?.map BootMode.name) hproblems
  · have hcheck := Settings.check_of_problems hproblems hne
    have hescape := Settings.noEscape_report
      ((Settings.reportable_ofEnvironment henv).withMode (i.mode?.map BootMode.name)) hproblems
    rw [execute_words i hcompletion hlevel]
    -- Only `info` shows something before it looks at the settings.
    by_cases hi : i = .info
    · subst hi
      refine ⟨info_turnedDown hcheck, fun hplain => ?_, fun hne => absurd rfl hne⟩
      show Reported (info w) problems
      rw [info_of_problems (hplain rfl) hcheck]
      exact reported_reportAfter _ hescape
    · rw [session_of_problems hi hcheck]
      exact ⟨turnedDown_reportAfter [] problems, fun _ => reported_reportAfter [] hescape,
        fun _ => rfl⟩
  · rw [execute_words .info hcompletion hlevel]
    exact exitCode_info w

/-- One malformed integer and two more problems. -/
def faulty : World := worldOf [("TEE_FLEET_SIZE", "two"), ("TEE_FLEET_INSTANCE_TYPE", "t3.micro"),
  ("TEE_FLEET_LISTENER_PORT", "0")]

def faultyMessage : String :=
  "❌ Configuration errors:\n  - TEE_FLEET_SIZE must be an integer, got 'two'\n" ++
    "  - Instance type t3.micro does not support Nitro Enclaves\n" ++
    "  - TEE_FLEET_LISTENER_PORT out of range: 0\n"

theorem invalid_settings_reach_nothing_faulty :
    TurnedDown (execute faulty ((Invocation.userData (some .script)).words (some "debug"))) ∧
    (execute faulty ((Invocation.userData (some .script)).words (some "debug"))).shown = "\n\n" ∧
    (∀ time, (execute faulty ((Invocation.userData (some .script)).words
      (some "debug"))).shownBeside time = faultyMessage) ∧
    (∀ time, (execute faulty (Invocation.info.words (some "debug"))).shownBeside time =
      faultyMessage) ∧
    (execute faulty (Invocation.info.words (some "debug"))).exitCode ≠ 0 := by
  have hproblems : ((Invocation.userData (some .script)).settings faulty).problems faulty.files =
      .ok [.noted "TEE_FLEET_SIZE must be an integer, got 'two'", .instanceType "t3.micro",
        .listenerPort 0] := ok_of_toOption (by decide)
  have hproblems' : (Invocation.info.settings faulty).problems faulty.files =
      .ok [.noted "TEE_FLEET_SIZE must be an integer, got 'two'", .instanceType "t3.micro",
        .listenerPort 0] := ok_of_toOption (by decide)
  have hplain : HasPlainSummary (Invocation.info.settings faulty) := by decide +kernel
  have hmessage : ("❌ " ++ Problem.report [.noted "TEE_FLEET_SIZE must be an integer, got 'two'",
      .instanceType "t3.micro", .listenerPort 0] ++ "\n").escapeSurrogates = faultyMessage :=
    (escapeSurrogates_eq_self (by decide +kernel)).trans (by decide +kernel)
  obtain ⟨hall, hinfo⟩ := invalid_settings_reach_nothing faulty (some "debug") 10 (by decide)
    (ok_of_toOption (by decide)) (Environment.noEscape_ofList (by decide))
  obtain ⟨hdown, hreported, hshown⟩ := (hall _ _ hproblems).2 (by simp)
  obtain ⟨_, hreported', _⟩ := (hall _ _ hproblems').2 (by simp)
  refine ⟨hdown, hshown (by simp), fun time => ?_, fun time => ?_, fun hzero => ?_⟩
  · rw [(hreported (by simp)).message time, hmessage]
  · rw [(hreported' fun _ => hplain).message time, hmessage]
  · have hcheck := Settings.check_of_problems hproblems' (by simp)
    cases hcheck.symm.trans (hinfo.mp hzero).1

/-! ## Environments that keep the report from being shown -/

/-- Completions are asked for in a way that no shell has, and there are to be no hosts. -/
def askedInVain : World := worldOf [(usualProgram.completionVariable, "x"), ("TEE_FLEET_SIZE", "0")]

/-- The byte 0xFF stands in the name of the secret. -/
def undecodableName : World :=
  worldOf [("TEE_FLEET_SECRET_NAME", String.ofList ('x' :: Points.pointChars 0xDCFF))]

/-- Where completions are asked for, invalid settings are not reported; and where a surrogate stands
in the summary, valid settings are turned down. -/
theorem invalid_settings_unreported :
    threshold ((none : Option String).getD usualProgram.logLevel) = .ok 20 ∧
    (askedInVain.environment.NoEscape ∧
      ((Invocation.synth none).settings askedInVain).problems askedInVain.files =
        .ok [.fleetSize 0] ∧
      (execute askedInVain ((Invocation.synth none).words none)).output = []) ∧
    (undecodableName.environment.NoEscape ∧
      (Invocation.info.settings undecodableName).check undecodableName.files = .ok () ∧
      (execute undecodableName (Invocation.info.words none)).exitCode = 1) := by
  have hlevel : threshold ((none : Option String).getD usualProgram.logLevel) = .ok 20 :=
    ok_of_toOption (by decide)
  have hplain : ¬HasPlainSummary (Settings.ofEnvironment undecodableName.environment) := by
    decide +kernel
  obtain ⟨fault, output, hinfo⟩ := info_of_not_plain hplain
  refine ⟨hlevel, ⟨Environment.noEscape_ofList (by decide), ok_of_toOption (by decide), rfl⟩,
    ⟨Environment.noEscape_ofList (by decide), ok_of_toOption (by decide), ?_⟩⟩
  rw [execute_words .info (by decide) hlevel]
  show (info undecodableName).exitCode = 1
  rw [hinfo]
  rfl

end EnclaveFleet.Console
