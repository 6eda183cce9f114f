import EnclaveFleet.Proofs.Console.InvalidSettings
import EnclaveFleet.Proofs.Console.PrintedBootstrap
import EnclaveFleet.Proofs.Files.Refusals

/-!
# How a session ends

Settings pass or are turned down with their problems, and a command reports these. Only two things
end it in another way: a script about which the file system tells nothing, since its path is too
long or a directory on it is closed, and a line that holds a surrogate.

* `Judged`, `Orderly`: settings and sessions without any other failure
* `Settings.Unaskable`: the file system does not tell whether the script is there
* `Settings.check_eq_file_iff`, `judged_iff`: these settings and no others are not judged
* `orderly_info_iff`, `orderly_userData_iff`: the sessions of two commands
* `ends_orderly_iff`: settings, and both commands from their words
* `overlong_script_escapes`, `closed_script_escapes`: scripts that end both of them
-/
namespace EnclaveFleet
set_option autoImplicit false

/-! ## Settings -/

/-- They pass, or what is wrong with them is known. -/
inductive Judged : Except Failure Unit → Prop
  | passed : Judged (.ok ())
  | turnedDown (problems : List Problem) : Judged (.error (.configuration problems))

inductive BootScript.Unaskable (files : Tree) (fault : FileFault) : BootScript → Prop
  | file {p : Path} (hnul : p.hasNul = false) (hpath : p.text.pathFault? = none)
      (habsence : fault.isAbsence = false) (hrefuses : files.Refuses p fault) :
      Unaskable files fault (.file p)

namespace Settings

variable {s : Settings} {files : Tree} {fault : FileFault}

structure Unaskable (s : Settings) (files : Tree) (fault : FileFault) : Prop where
  mode : s.mode? = some .script
  script : s.bootScript.Unaskable files fault

theorem bootScript_ofEnvironment {env : Environment} {value : String}
    (h : env.nonempty (Variable.name .bootScript) = some value) :
    (ofEnvironment env).bootScript = .file (Path.parse value) := by
  have hread : (ofEnvironment env).bootScript = ((env.nonempty (Variable.name .bootScript)).map
      fun s => BootScript.file (Path.parse s)).getD .shipped := rfl
  rw [hread, h]
  rfl

theorem isFile_eq_error_iff {script : BootScript} :
    script.isFile files = .error fault ↔ script.Unaskable files fault := by
  constructor
  · intro h
    cases script with
    | shipped => cases h
    | file p =>
      obtain ⟨hnul, hpath, habsence, hrefuses⟩ := Tree.isFile_eq_error_iff.mp h
      exact .file hnul hpath habsence hrefuses
  · rintro ⟨hnul, hpath, habsence, hrefuses⟩
    exact Tree.isFile_eq_error_iff.mpr ⟨hnul, hpath, habsence, hrefuses⟩

theorem bootProblems_eq_error_iff :
    s.bootProblems files = .error fault ↔ s.Unaskable files fault := by
  rw [bootProblems]
  constructor
  · intro h
    split at h
    · cases h
    · cases h
    · next hmode =>
      split at h
      · next hfile =>
        cases h
        exact ⟨hmode, isFile_eq_error_iff.mp hfile⟩
      · cases h
  · rintro ⟨hmode, hscript⟩
    rw [hmode]
    simp only [isFile_eq_error_iff.mpr hscript]

theorem check_eq_file_iff :
    s.check files = .error (.file fault s.bootScript.text) ↔ s.Unaskable files fault := by
  rw [← bootProblems_eq_error_iff, check, problems]
  cases hboot : s.bootProblems files with
  | error other => simp [Except.map]
  | ok boot =>
    simp only [Except.map, reduceCtorEq, iff_false]
    split <;> simp_all

theorem judged_iff : Judged (s.check files) ↔ ∀ fault, ¬s.Unaskable files fault := by
  simp only [← check_eq_file_iff]
  cases hcheck : s.check files with
  | ok _ => exact iff_of_true .passed nofun
  | error e =>
    obtain ⟨problems, rfl⟩ | ⟨fault, _, rfl⟩ := check_error hcheck
    · exact iff_of_true (.turnedDown problems) nofun
    · exact iff_of_false nofun fun h => h fault rfl

end Settings

namespace Console

open Settings (Unaskable)

/-! ## Sessions -/

/-- The command does what it is for, or it says beside the answers why it does not. -/
inductive Orderly (r : Session Unit) : Prop
  | done (exitCode : r.exitCode = 0) (failure : r.failure? = none)
  | complained (exitCode : r.exitCode = 1) (failure : r.failure? = none) (message : String)
      (remark : ∀ time, r.shownBeside time = "❌ " ++ message ++ "\n")

theorem Orderly.failure {r : Session Unit} (h : Orderly r) : r.failure? = none := by
  cases h with
  | done _ failure => exact failure
  | complained _ failure _ _ => exact failure

theorem orderly_reportAfter (lines : List String) (problems : List Problem) :
    Orderly (reportAfter lines problems) := by
  refine .complained rfl rfl (Problem.report problems).dropEscapes.escapeSurrogates fun time => ?_
  rw [shownBeside_reportAfter, dropEscapes_append_line (by decide), escapeSurrogates_line,
    escapeSurrogates_append (by decide)]

/-! ## The command that shows the settings -/

theorem orderly_info_iff (w : World) :
    Orderly (info w) ↔
      (∀ fault, ¬(Settings.ofEnvironment w.environment).Unaskable w.files fault) ∧
        HasPlainSummary (Settings.ofEnvironment w.environment) := by
  by_cases hplain : HasPlainSummary (Settings.ofEnvironment w.environment)
  · rw [and_iff_left hplain, ← Settings.judged_iff]
    cases hcheck : (Settings.ofEnvironment w.environment).check w.files with
    | ok _ =>
      rw [info_eq, Session.forM_print hplain, hcheck]
      exact iff_of_true (.done rfl rfl) .passed
    | error e =>
      obtain ⟨problems, rfl⟩ | ⟨fault, _, rfl⟩ := Settings.check_error hcheck
      · rw [info_of_problems hplain hcheck]
        exact iff_of_true (orderly_reportAfter _ problems) (.turnedDown problems)
      · rw [info_eq, Session.forM_print hplain, hcheck]
        exact iff_of_false (fun h => nomatch h.failure) nofun
  · obtain ⟨fault, output, hinfo⟩ := info_of_not_plain hplain
    rw [hinfo]
    exact iff_of_false (fun h => nomatch h.failure) fun h => hplain h.2

/-! ## The command that prints the bootstrap -/

theorem deployed_eq_file_iff {s : Settings} {files : Tree} {fault : FileFault} :
    deployed s files = .error (.file fault s.bootScript.text) ↔ s.Unaskable files fault := by
  rw [← Settings.check_eq_file_iff, deployed]
  cases hcheck : s.check files with
  | error e => simp [Except.bind]
  | ok _ =>
    -- What is wrong with a script that is there is a problem of the configuration.
    refine iff_of_false (fun h => ?_) (by simp)
    have hdata : (Bootstrap.userData s files arnPlaceholder regionPlaceholder).outcome =
      .error (.file fault s.bootScript.text) := h
    obtain ⟨d, hd⟩ | ⟨hmode, problem, hspoilt⟩ :=
      Bootstrap.userData_of_check arnPlaceholder regionPlaceholder hcheck
    · cases hd.symm.trans hdata
    · rw [Bootstrap.userData_of_spoilt _ _ hcheck hmode hspoilt] at hdata
      cases hdata

theorem orderly_userData_iff (w : World) (mode : Option BootMode) :
    Orderly (userData w (mode.map BootMode.name)) ↔
      (∀ fault, ¬(chosen w mode).Unaskable w.files fault) ∧
        ∀ lines, bootLines (chosen w mode) w.files = .ok lines → ∀ line ∈ lines, Writable line := by
  simp only [← deployed_eq_file_iff]
  cases hdeployed : deployed (chosen w mode) w.files with
  | error e =>
    rw [userData_of_error hdeployed, bootLines_of_error hdeployed]
    obtain ⟨problems, rfl⟩ | ⟨fault, _, rfl⟩ := deployed_error hdeployed
    · rw [report_configuration]
      exact iff_of_true (orderly_reportAfter [] problems) ⟨nofun, nofun⟩
    · exact iff_of_false (fun h => nomatch h.failure) fun h => h.1 fault rfl
  | ok d =>
    obtain ⟨lines, hlines, _⟩ := bootLines_of_ok hdeployed
    rw [userData_eq, hlines, Session.ofExcept_ok_bind]
    by_cases hwritable : ∀ line ∈ lines, Writable line
    · rw [Session.forM_say_of_writable hwritable]
      refine iff_of_true (.done rfl rfl) ⟨nofun, fun found hfound => ?_⟩
      cases hfound
      exact hwritable
    · obtain ⟨fault, output, hshow⟩ := Session.forM_say_of_not hwritable
      rw [hshow]
      exact iff_of_false (fun h => nomatch h.failure) fun h => hwritable (h.2 lines rfl)

theorem failure_userData_of_unaskable (w : World) (mode : Option BootMode) (fault : FileFault)
    (h : (chosen w mode).Unaskable w.files fault) :
    (userData w (mode.map BootMode.name)).failure? =
      some (.file fault (chosen w mode).bootScript.text) := by
  rw [userData_of_error (deployed_eq_file_iff.mpr h)]
  rfl

/-! ## Both commands -/

/-- Settings are judged, and a command ends with no other failure than a report, exactly where the
file system tells of the script and every line can be shown. -/
theorem ends_orderly_iff (w : World) :
    (Judged ((Settings.ofEnvironment w.environment).check w.files) ↔
      ∀ fault, ¬(Settings.ofEnvironment w.environment).Unaskable w.files fault) ∧
    (w.environment.nonempty w.program.completionVariable = none → ∀ level log,
      threshold (level.getD w.program.logLevel) = .ok log →
        (Orderly (execute w (Invocation.info.words level)) ↔
          (∀ fault, ¬(Settings.ofEnvironment w.environment).Unaskable w.files fault) ∧
            HasPlainSummary (Settings.ofEnvironment w.environment)) ∧
        ∀ mode, (Orderly (execute w ((Invocation.userData mode).words level)) ↔
            (∀ fault, ¬(chosen w mode).Unaskable w.files fault) ∧ ∀ lines,
              bootLines (chosen w mode) w.files = .ok lines → ∀ line ∈ lines, Writable line) ∧
          ∀ fault, (chosen w mode).Unaskable w.files fault →
            (execute w ((Invocation.userData mode).words level)).failure? =
              some (.file fault (chosen w mode).bootScript.text)) := by
  refine ⟨Settings.judged_iff, fun hcompletion level log hlevel => ?_⟩
  rw [execute_words .info hcompletion hlevel]
  refine ⟨orderly_info_iff w, fun mode => ?_⟩
  rw [execute_words (.userData mode) hcompletion hlevel]
  exact ⟨orderly_userData_iff w mode, failure_userData_of_unaskable w mode⟩

/-- The directory of the script is not there. -/
def missingScript : World := worldOf [("TEE_FLEET_USER_DATA_MODE", "script"),
  ("TEE_FLEET_BOOTSTRAP_SCRIPT", "missing/b.sh")]

theorem ends_orderly_missing :
    Orderly (execute missingScript (Invocation.info.words (some "debug"))) ∧
    Orderly (execute missingScript ((Invocation.userData none).words (some "debug"))) := by
  have hproblems : (Settings.ofEnvironment missingScript.environment).problems
      missingScript.files = .ok [.scriptMissing (.file ⟨.relative, ["missing", "b.sh"]⟩)] :=
    ok_of_toOption (by decide)
  have hcheck := Settings.check_of_problems hproblems (by simp)
  obtain ⟨hjudged, hends⟩ := ends_orderly_iff missingScript
  obtain ⟨hinfo, huserData⟩ := hends (by decide) (some "debug") 10 (ok_of_toOption (by decide))
  have hask := hjudged.mp (hcheck ▸ .turnedDown _)
  refine ⟨hinfo.mpr ⟨hask, by decide +kernel⟩, (huserData none).1.mpr ⟨hask, ?_⟩⟩
  intro lines hlines
  rw [bootLines, show chosen missingScript none =
    Settings.ofEnvironment missingScript.environment from rfl, hcheck] at hlines
  cases hlines

/-! ## Scripts about which nothing is told -/

/-- Nothing is reported, and the refusal of the file system ends both commands as it is. -/
structure Escapes (w : World) (fault : FileFault) (path : String) : Prop where
  unjudged : ¬Judged ((Settings.ofEnvironment w.environment).check w.files)
  info : ¬Orderly (execute w (Invocation.info.words none))
  userData : (execute w ((Invocation.userData none).words none)).failure? =
    some (.file fault path)

theorem escapes_of_unaskable {w : World} {fault : FileFault} {p : Path} {log : Nat}
    (hcompletion : w.environment.nonempty w.program.completionVariable = none)
    (hlevel : threshold ((none : Option String).getD w.program.logLevel) = .ok log)
    (hmode : (Settings.ofEnvironment w.environment).mode? = some .script)
    (hscript : (Settings.ofEnvironment w.environment).bootScript = .file p)
    (hask : (BootScript.file p).Unaskable w.files fault) : Escapes w fault p.text := by
  rw [← hscript] at hask
  have hunaskable : (Settings.ofEnvironment w.environment).Unaskable w.files fault :=
    ⟨hmode, hask⟩
  refine ⟨fun h => Settings.judged_iff.mp h fault hunaskable, ?_, ?_⟩
  · rw [execute_words .info hcompletion hlevel]
    exact fun h => ((orderly_info_iff w).mp h).1 fault hunaskable
  · rw [execute_words (.userData none) hcompletion hlevel]
    have htext : (chosen w none).bootScript.text = p.text := congrArg BootScript.text hscript
    exact (failure_userData_of_unaskable w none fault hunaskable).trans (by rw [htext])

def longName : String := String.ofList (List.replicate 256 'a')

theorem toList_longName : longName.toList = List.replicate 256 'a' := String.toList_ofList

theorem points_longName : longName.points = List.replicate 256 0x61 := by
  have hascii : ∀ c ∈ List.replicate 256 'a', isAscii c := by
    intro c hc
    rw [List.eq_of_mem_replicate hc]
    decide
  rw [String.points, toList_longName, Points.ofChars_of_ascii hascii, List.map_replicate]
  rfl

theorem longName_ne {s : String} (h : s.toList.length ≠ 256) : longName ≠ s := by
  rintro rfl
  rw [toList_longName, List.length_replicate] at h
  exact h rfl

theorem parse_longName : Path.parse longName = ⟨.relative, [longName]⟩ := by
  refine Path.parse_eq_of_name (longName_ne (by decide)) (longName_ne (by decide)) fun hslash => ?_
  rw [toList_longName] at hslash
  exact absurd (List.eq_of_mem_replicate hslash) (by decide)

theorem text_longName : Path.text ⟨.relative, [longName]⟩ = longName := rfl

theorem unaskable_longName {files : Tree} (hopen : files.closed.lookup .work = none) :
    (BootScript.file ⟨.relative, [longName]⟩).Unaskable files .nameTooLong := by
  refine .file ?_ ?_ rfl (.step ?_ (show _ = [] ++ longName :: [] from rfl) rfl
    (.long hopen ?_ rfl))
  · rw [Path.hasNul, List.any_cons, Path.nameHasNul, toList_longName]
    decide +kernel
  · rw [text_longName, String.pathFault?, points_longName]
    decide +kernel
  · rw [text_longName, String.fileBytes, points_longName]
    decide +kernel
  · rw [String.fileBytes, points_longName]
    decide +kernel

def overlongScript : World := worldOf [("TEE_FLEET_USER_DATA_MODE", "script"),
  ("TEE_FLEET_BOOTSTRAP_SCRIPT", longName)]

theorem overlong_script_escapes :
    threshold ((none : Option String).getD usualProgram.logLevel) = .ok 20 ∧
    overlongScript.environment.nonempty usualProgram.completionVariable = none ∧
    Escapes overlongScript .nameTooLong longName := by
  have hlevel : threshold ((none : Option String).getD usualProgram.logLevel) = .ok 20 :=
    ok_of_toOption (by decide)
  have hvalue : overlongScript.environment.nonempty (Variable.name .bootScript) =
      some longName := by
    have henv : overlongScript.environment (Variable.name .bootScript) = some longName := rfl
    have hempty : longName ≠ "" := longName_ne (by decide)
    rw [Environment.nonempty, henv, Option.filter_some, if_pos (decide_eq_true hempty)]
  have hscript := (Settings.bootScript_ofEnvironment hvalue).trans
    (congrArg BootScript.file parse_longName)
  have hescapes := escapes_of_unaskable (w := overlongScript) (by decide) hlevel (by decide)
    hscript (unaskable_longName rfl)
  rw [text_longName] at hescapes
  exact ⟨hlevel, by decide, hescapes⟩

/-- The home of the administrator is closed to everyone else. -/
def closedScript : World :=
  { worldOf [("TEE_FLEET_USER_DATA_MODE", "script"), ("TEE_FLEET_BOOTSTRAP_SCRIPT", "/root/b.sh")]
    with files := { entries := [], closed := [(.root ["root"], .denied)] } }

theorem closed_script_escapes :
    threshold ((none : Option String).getD usualProgram.logLevel) = .ok 20 ∧
    closedScript.environment.nonempty usualProgram.completionVariable = none ∧
    Escapes closedScript .denied "/root/b.sh" := by
  have hlevel : threshold ((none : Option String).getD usualProgram.logLevel) = .ok 20 :=
    ok_of_toOption (by decide)
  have hask : (BootScript.file ⟨.root, ["root", "b.sh"]⟩).Unaskable closedScript.files .denied :=
    .file (by decide) (by decide) rfl (.step (by decide)
      (show _ = ["root"] ++ "b.sh" :: [] from rfl) rfl (.closed (by decide) rfl))
  exact ⟨hlevel, by decide, escapes_of_unaskable (by decide) hlevel (by decide) (by decide) hask⟩

end Console
end EnclaveFleet
