import EnclaveFleet.Proofs.Console.PrintedBootstrap
import EnclaveFleet.Proofs.Preflight.Verdict
import EnclaveFleet.Proofs.Text.Occurrences

/-!
# The command that checks before a deployment

It shows one line for each result and says at the end whether all checks passed, in words and by its
exit code. Nothing else than replies of the services that confirm both checks leads to the exit code
zero.

* `heading`, `announce`: what is shown before there are results and what is made of them
* `preflight_eq`: the command, step by step
* `exitCode_preflight_iff`: all that the exit code zero depends on
* `Announced`: one line for each result, and the verdict
* `checkedSession`, `announced_checkedSession`: the session where nothing fails but checks
* `preflight_gates`: the command from its words
* `ready_unannounced`: environments in which passed checks are not announced
-/
namespace EnclaveFleet.Console
set_option autoImplicit false

open Preflight (confirmed holding supporting)

/-! ## The command, step by step -/

def heading (s : Settings) : List String :=
  ["", s!"🔍 Preflight for {s.stackId} in {s.regionText}", String.ofList (List.replicate 60 '-')]

def conclude (failed : Nat) : Session Unit :=
  if failed = 0 then (Session.say "✅ Ready to deploy").bind fun _ => Session.say ""
  else Session.giveUp s!"{failed} preflight check(s) failed"

def announce (results : List CheckResult) : Session Unit :=
  ((results.map resultLine).forM Session.say).bind fun _ =>
    (Session.say "").bind fun _ => conclude (results.countP (!·.passed))

theorem forM_heading (s : Settings) (f : Session Unit) :
    ((heading s).forM Session.say).bind (fun _ => f) =
      (Session.say "").bind fun _ =>
        (Session.say s!"🔍 Preflight for {s.stackId} in {s.regionText}").bind fun _ =>
          (Session.say (String.ofList (List.replicate 60 '-'))).bind fun _ => f := by
  have hnil : ([] : List String).forM Session.say = .pure () := rfl
  rw [heading, Session.forM_cons, Session.forM_cons, Session.forM_cons, hnil, Session.bind_assoc,
    Session.bind_assoc, Session.bind_assoc]
  simp only [Session.pure_bind]

theorem preflight_eq (w : World) (log : Nat) :
    preflight w log = Session.reporting
      ((Session.ofExcept ((Settings.ofEnvironment w.environment).check w.files)).bind fun _ =>
        ((heading (Settings.ofEnvironment w.environment)).forM Session.say).bind fun _ =>
          (Session.ofRun log (w.preflight (Settings.ofEnvironment w.environment))).bind
            announce) := by
  have hsteps : preflight w log = Session.reporting ((loadSettings w []).bind fun s =>
      (Session.say "").bind fun _ =>
        (Session.say s!"🔍 Preflight for {s.stackId} in {s.regionText}").bind fun _ =>
          (Session.say (String.ofList (List.replicate 60 '-'))).bind fun _ =>
            (Session.ofRun log (w.preflight s)).bind announce) := rfl
  rw [hsteps, loadSettings_eq, Session.bind_assoc]
  simp only [Session.pure_bind, forM_heading]
  rfl

/-! ## Results as lines -/

theorem showable_padEnd {text : String} (width : Nat) (h : Showable text) :
    Showable (Settings.padEnd width text) := by
  rw [Settings.padEnd]
  cases width - text.points.length with
  | zero => rwa [List.replicate_zero, String.ofList_nil, String.append_empty]
  | succ n =>
    have hblanks : String.ofList (List.replicate (n + 1) ' ') =
        " " ++ String.ofList (List.replicate n ' ') := String.ofList_cons
    rw [hblanks, ← String.append_assoc, showable_append_space]
    refine ⟨h, showable_of_no_mark ?_⟩
    rw [String.toList_ofList, List.mem_replicate, List.mem_replicate]
    exact ⟨fun hmem => absurd hmem.2 (by decide), fun hmem => absurd hmem.2 (by decide)⟩

theorem showable_resultLine {result : CheckResult} (hname : Showable result.name)
    (hdetail : Showable result.detail) : Showable (resultLine result) := by
  rw [resultLine, showable_append_space]
  refine ⟨?_, hdetail⟩
  have hmark : ∀ sign, Showable sign → Showable (sign ++ " " ++ Settings.padEnd 15 result.name) :=
    fun _ hsign => showable_append_space.mpr ⟨hsign, showable_padEnd 15 hname⟩
  cases result.passed with
  | true => exact hmark "✅" (showable_of_no_mark (by decide))
  | false => exact hmark "❌" (showable_of_no_mark (by decide))

/-! ## The verdict -/

theorem failed_eq_zero_iff (results : List CheckResult) :
    results.countP (!·.passed) = 0 ↔ ∀ result ∈ results, result.passed := by
  simp [List.countP_eq_zero]

theorem conclude_zero : conclude 0 =
    { outcome := .ok (), output := [.out "✅ Ready to deploy\n", .out "\n"] } := by
  have hready : Showable "✅ Ready to deploy" := showable_of_no_mark (by decide)
  rw [conclude, if_pos rfl, Session.say_of_showable hready, Session.say_blank]
  rfl

theorem conclude_of_ne {n : Nat} (h : n ≠ 0) : conclude n =
    { outcome := .error (.exit 1)
      output := [.out "\n", .err ("❌ " ++ s!"{n} preflight check(s) failed" ++ "\n"),
        .out "\n"] } := by
  have hescape : Text.escapeChar ∉ ("❌ " ++ s!"{n} preflight check(s) failed").toList :=
    notMem_append.mpr ⟨by decide, notMem_append.mpr
      ⟨notMem_toString (by decide) (by decide) n, by decide⟩⟩
  rw [conclude, if_neg h, Session.giveUp_eq, dropEscapes_line hescape]

theorem exitCode_conclude_iff {n : Nat} : (conclude n).exitCode = 0 ↔ n = 0 := by
  by_cases h : n = 0
  · subst h
    rw [conclude_zero]
    exact iff_of_true rfl rfl
  · have hone : ¬(1 : Nat) = 0 := by decide
    rw [conclude_of_ne h]
    exact iff_of_false hone h

theorem failure_conclude (n : Nat) : (conclude n).failure? = none := by
  by_cases h : n = 0
  · rw [h, conclude_zero]
    rfl
  · rw [conclude_of_ne h]
    rfl

theorem exitCode_announce_iff {results : List CheckResult} :
    (announce results).exitCode = 0 ↔ (∀ result ∈ results, Writable (resultLine result)) ∧
      ∀ result ∈ results, result.passed := by
  have hblank : ((Session.say "").bind fun _ => conclude (results.countP (!·.passed))).exitCode =
      (conclude (results.countP (!·.passed))).exitCode := by
    rw [Session.say_blank]
    rfl
  rw [announce, Session.exitCode_bind_eq_zero_iff (Session.forM_say_ne_exit _)]
  simp only [hblank, exitCode_conclude_iff, failed_eq_zero_iff, Session.outcome_forM_say_iff,
    List.forall_mem_map, exists_const]

/-- The settings pass, all lines can be shown, and so do all checks. -/
theorem exitCode_preflight_iff {w : World} {log : Nat} {s : Settings}
    (hs : s = Settings.ofEnvironment w.environment) :
    (preflight w log).exitCode = 0 ↔ s.check w.files = .ok () ∧
      (∀ line ∈ heading s, Writable line) ∧ ∃ results, (w.preflight s).outcome = .ok results ∧
        (∀ result ∈ results, Writable (resultLine result)) ∧
        ∀ result ∈ results, result.passed := by
  rw [preflight_eq, Session.exitCode_reporting, ← hs,
    Session.exitCode_bind_eq_zero_iff (Session.ofExcept_ne_exit _)]
  simp only [Session.exitCode_bind_eq_zero_iff (Session.forM_say_ne_exit _),
    Session.exitCode_bind_eq_zero_iff (Session.ofRun_ne_exit log _),
    Session.outcome_ofExcept_iff, Session.outcome_forM_say_iff, Session.outcome_ofRun_iff,
    exitCode_announce_iff, Unique.exists_iff]

/-! ## What is shown -/

/-- One line for each result, and the verdict. -/
inductive Announced (r : Session Unit) (front : String) (remarks : String → String)
    (results : List CheckResult) : Prop
  | ready (passed : ∀ result ∈ results, result.passed) (exitCode : r.exitCode = 0)
      (failure : r.failure? = none)
      (shown : r.shown = front ++
        String.join (results.map fun result => resultLine result ++ "\n") ++
          "\n✅ Ready to deploy\n\n")
      (beside : ∀ time, r.shownBeside time = remarks time)
  | failed (passed : ¬∀ result ∈ results, result.passed) (exitCode : r.exitCode = 1)
      (failure : r.failure? = none)
      (shown : r.shown = front ++
        String.join (results.map fun result => resultLine result ++ "\n") ++ "\n\n\n")
      (beside : ∀ time, r.shownBeside time = remarks time ++
        ("❌ " ++ s!"{results.countP (!·.passed)} preflight check(s) failed" ++ "\n"))

def entries (results : List CheckResult) : Session Unit where
  outcome := .ok ()
  output := (results.map fun result => .out (resultLine result ++ "\n")) ++ [.out "\n"]

theorem shown_entries (results : List CheckResult) : (entries results).shown =
    String.join (results.map fun result => resultLine result ++ "\n") ++ "\n" := by
  rw [Session.shown, entries, List.map_append, String.join_append, answers_out]
  rfl

theorem shownBeside_entries (results : List CheckResult) (time : String) :
    (entries results).shownBeside time = "" := by
  rw [Session.shownBeside, entries, List.map_append, String.join_append, remarks_out]
  rfl

theorem announce_eq {results : List CheckResult}
    (h : ∀ result ∈ results, Showable (resultLine result)) :
    announce results = (entries results).andThen (conclude (results.countP (!·.passed))) := by
  rw [announce, Session.forM_say (List.forall_mem_map.mpr h), Session.say_blank]
  simp [Session.bind, Session.andThen, Session.emit, entries, Function.comp_def]

theorem beside_conclude {n : Nat} (h : n ≠ 0) (time : String) :
    (conclude n).shownBeside time = "❌ " ++ s!"{n} preflight check(s) failed" ++ "\n" := by
  have hmark : Points.mark ∉ ("❌ " ++ s!"{n} preflight check(s) failed" ++ "\n").toList :=
    notMem_append.mpr ⟨notMem_append.mpr ⟨by decide, notMem_append.mpr
      ⟨notMem_toString (by decide) (by decide) n, by decide⟩⟩, by decide⟩
  rw [conclude_of_ne h]
  refine Eq.trans ?_ (escapeSurrogates_eq_self hmark)
  simp [Session.shownBeside, Output.remark]

/-- The heading, as it is shown. -/
def front (s : Settings) : Session Unit where
  outcome := .ok ()
  output := (heading s).map fun line => .out (line ++ "\n").dropEscapes

/-- All of the session where nothing fails but checks. -/
def checkedSession (s : Settings) (log : Nat) (r : Run (List CheckResult))
    (results : List CheckResult) : Session Unit :=
  (front s).andThen ((Session.ofRun log r).andThen
    ((entries results).andThen (conclude (results.countP (!·.passed)))))

theorem shown_checkedSession (s : Settings) (log : Nat) (r : Run (List CheckResult))
    (results : List CheckResult) : (checkedSession s log r results).shown =
      (front s).shown ++ String.join (results.map fun result => resultLine result ++ "\n") ++
        ("\n" ++ (conclude (results.countP (!·.passed))).shown) := by
  simp only [checkedSession, Session.shown_andThen, Session.shown_ofRun, shown_entries,
    String.empty_append, String.append_assoc]

theorem shownBeside_checkedSession (s : Settings) (log : Nat) (r : Run (List CheckResult))
    (results : List CheckResult) (time : String) :
    (checkedSession s log r results).shownBeside time =
      (Session.ofRun log r).shownBeside time ++
        (conclude (results.countP (!·.passed))).shownBeside time := by
  have hfront : (front s).shownBeside time = "" := remarks_out time _ _
  simp only [checkedSession, Session.shownBeside_andThen, hfront, shownBeside_entries,
    String.empty_append]

theorem announced_checkedSession (s : Settings) (log : Nat) (r : Run (List CheckResult))
    (results : List CheckResult) : Announced (checkedSession s log r results) (front s).shown
      (Session.ofRun log r).shownBeside results := by
  have hshown := shown_checkedSession s log r results
  have hbeside := shownBeside_checkedSession s log r results
  have hcode : (checkedSession s log r results).exitCode =
    (conclude (results.countP (!·.passed))).exitCode := rfl
  have hfailure : (checkedSession s log r results).failure? = none := failure_conclude _
  by_cases hpassed : ∀ result ∈ results, result.passed
  · rw [(failed_eq_zero_iff results).mpr hpassed, conclude_zero] at hshown hbeside hcode
    refine .ready hpassed hcode hfailure hshown fun time => (hbeside time).trans ?_
    exact String.append_empty
  · have hfailed : results.countP (!·.passed) ≠ 0 := fun h => hpassed ((failed_eq_zero_iff _).mp h)
    refine .failed hpassed ?_ hfailure ?_ fun time => ?_
    · rw [hcode, conclude_of_ne hfailed]
      rfl
    · rw [hshown, conclude_of_ne hfailed]
      rfl
    · rw [hbeside, beside_conclude hfailed]

theorem preflight_of_results {w : World} {log : Nat} {s : Settings} {results : List CheckResult}
    (hs : s = Settings.ofEnvironment w.environment) (hcheck : s.check w.files = .ok ())
    (hheading : ∀ line ∈ heading s, Writable line)
    (hrun : (w.preflight s).outcome = .ok results)
    (hresults : ∀ result ∈ results, Showable (resultLine result)) :
    preflight w log = checkedSession s log (w.preflight s) results := by
  have hok : (Session.ofRun log (w.preflight s)).outcome = .ok results :=
    Session.outcome_ofRun_iff.mpr hrun
  rw [preflight_eq, ← hs, hcheck, Session.ofExcept_ok_bind, Session.forM_say_of_writable hheading,
    Session.bind_of_ok _ _ () rfl, Session.bind_of_ok _ _ results hok, announce_eq hresults]
  exact Session.reporting_of_none (failure_conclude _)

/-- The lines that are shown where both checks pass. -/
def passedLines (s : Settings) : List String :=
  heading s ++ [resultLine (confirmed s .secret), resultLine (confirmed s .instanceType)]

theorem exitCode_of_cloud {w : World} {log levels : Nat} {s : Settings} {cloud : Cloud}
    (hs : s = Settings.ofEnvironment w.environment)
    (hrun : w.preflight s = Preflight.run levels s cloud) :
    (preflight w log).exitCode = 0 ↔
      ((∃ store, cloud.secrets.client? = some store ∧ store.Holds levels s.secretKeys) ∧
        ∃ catalogue, cloud.instances.client? = some catalogue ∧ catalogue.supports ∧
          catalogue.offers) ∧
      s.check w.files = .ok () ∧ ∀ line ∈ passedLines s, Writable line := by
  rw [exitCode_preflight_iff hs, hrun, passedLines, List.forall_mem_append]
  constructor
  · rintro ⟨hcheck, hheading, results, houtcome, hwritable, hpassed⟩
    obtain ⟨rfl, hconfirms⟩ := Preflight.all_passed_iff.mp ⟨houtcome, hpassed⟩
    exact ⟨hconfirms, hcheck, hheading, List.forall_mem_map.mpr hwritable⟩
  · rintro ⟨hconfirms, hcheck, hheading, hlines⟩
    obtain ⟨houtcome, hpassed⟩ := Preflight.all_passed_iff.mpr ⟨rfl, hconfirms⟩
    refine ⟨hcheck, hheading, _, houtcome, ?_, hpassed⟩
    exact List.forall_mem_map.mp hlines

/-- The lines and the exit code tell what came of the checks; and whatever the services do, the exit
code zero means that they confirm both. -/
theorem preflight_gates (w : World) (level : Option String) (log : Nat) (s : Settings)
    (hcompletion : w.environment.nonempty w.program.completionVariable = none)
    (hlevel : threshold (level.getD w.program.logLevel) = .ok log)
    (hs : s = Settings.ofEnvironment w.environment) :
    (s.check w.files = .ok () → (∀ line ∈ heading s, Writable line) →
      ∀ results, (w.preflight s).outcome = .ok results →
        (∀ result ∈ results, Showable result.name ∧ Showable result.detail) →
        Announced (execute w (Invocation.preflight.words level)) (front s).shown
          (Session.ofRun log (w.preflight s)).shownBeside results) ∧
    ∀ levels cloud, w.preflight s = Preflight.run levels s cloud →
      ((execute w (Invocation.preflight.words level)).exitCode = 0 ↔
        ((∃ store, cloud.secrets.client? = some store ∧ store.Holds levels s.secretKeys) ∧
          ∃ catalogue, cloud.instances.client? = some catalogue ∧ catalogue.supports ∧
            catalogue.offers) ∧
        s.check w.files = .ok () ∧ ∀ line ∈ passedLines s, Writable line) := by
  rw [execute_words .preflight hcompletion hlevel]
  refine ⟨fun hcheck hheading results hrun hresults => ?_, fun levels cloud hrun => ?_⟩
  · have hlines : ∀ result ∈ results, Showable (resultLine result) := fun result hresult =>
      showable_resultLine (hresults result hresult).1 (hresults result hresult).2
    have hsession : Invocation.preflight.session w log =
        checkedSession s log (w.preflight s) results :=
      preflight_of_results hs hcheck hheading hrun hlines
    rw [hsession]
    exact announced_checkedSession s log (w.preflight s) results
  · exact exitCode_of_cloud hs hrun

/-- Both keys have a value. -/
def filledSecret : String := (Json.flat [("seal_url", "u"), ("seal_bearer_token", "t")]).render

def confirming : Cloud := ⟨holding true [] [] filledSecret, .given supporting⟩

def ready : World := { worldOf [] with preflight := (Preflight.run 990 · confirming) }

theorem confirms_ready : (∃ store, confirming.secrets.client? = some store ∧
      store.Holds 990 (Settings.ofEnvironment ready.environment).secretKeys) ∧
    ∃ catalogue, confirming.instances.client? = some catalogue ∧ catalogue.supports ∧
      catalogue.offers := by
  have hread : Preflight.readText 990 filledSecret =
      .ok (.object [("seal_url", .text "u"), ("seal_bearer_token", .text "t")]) :=
    Json.parseWithin_render_flat (by simp)
      (by simp [Json.Words, Json.IsWord, VariableName.isRest]) 989
  have hkeys : ∀ key ∈ (Settings.ofEnvironment ready.environment).secretKeys,
      ((Json.getLast? key [("seal_url", .text "u"), ("seal_bearer_token", .text "t")]).any
        Json.isFilled) := by decide
  refine ⟨⟨_, rfl, filledSecret, _, rfl, hread, fun key hkey => ?_⟩, _, rfl, by decide, by decide⟩
  exact (Option.any_eq_true _ _).mp (hkeys key hkey)

theorem preflight_gates_ready :
    (execute ready (Invocation.preflight.words (some "debug"))).exitCode = 0 ∧
    (execute ready (Invocation.preflight.words (some "debug"))).shown =
      (front (Settings.ofEnvironment ready.environment)).shown ++
        ("✅ secret          sp1_tee has 2 required key(s)\n" ++
          "✅ instance_type   m5a.4xlarge supports Nitro Enclaves\n") ++
        "\n✅ Ready to deploy\n\n" := by
  have hcheck : (Settings.ofEnvironment ready.environment).check ready.files = .ok () :=
    ok_of_toOption (by decide)
  have hlines : ∀ line ∈ passedLines (Settings.ofEnvironment ready.environment), Writable line := by
    decide +kernel
  obtain ⟨houtcome, hpassed⟩ := Preflight.all_passed_iff.mpr ⟨rfl, confirms_ready⟩
  obtain ⟨hannounced, hexit⟩ := preflight_gates ready (some "debug") 10
    (Settings.ofEnvironment ready.environment) (by decide) (ok_of_toOption (by decide)) rfl
  refine ⟨(hexit 990 confirming rfl).mpr ⟨confirms_ready, hcheck, hlines⟩, ?_⟩
  have hshowable : ∀ result ∈ [confirmed (Settings.ofEnvironment ready.environment) .secret,
      confirmed (Settings.ofEnvironment ready.environment) .instanceType],
      Showable result.name ∧ Showable result.detail := by
    have hplain : ∀ result ∈ [confirmed (Settings.ofEnvironment ready.environment) .secret,
        confirmed (Settings.ofEnvironment ready.environment) .instanceType],
        (Text.escapeChar ∉ result.name.toList ∧ Points.mark ∉ result.name.toList) ∧
          Text.escapeChar ∉ result.detail.toList ∧ Points.mark ∉ result.detail.toList := by
      decide +kernel
    exact fun result hresult => ⟨showable_of_no_mark (hplain result hresult).1,
      showable_of_no_mark (hplain result hresult).2⟩
  cases hannounced hcheck (fun line hline => hlines line (List.mem_append_left _ hline)) _ houtcome
    hshowable with
  | ready _ _ _ shown _ =>
    refine shown.trans (congrArg (fun lines => (front _).shown ++ lines ++
      "\n✅ Ready to deploy\n\n") ?_)
    decide +kernel
  | failed notPassed _ _ _ _ => exact absurd hpassed notPassed

/-! ## Environments in which passed checks are not announced -/

/-- The byte 0xFF stands in the name of the stack. -/
def undecodableStack : World :=
  worldOf [("TEE_FLEET_STACK_NAME", String.ofList ('x' :: Points.pointChars 0xDCFF))]

/-- No check fails, and the command does. -/
theorem ready_unannounced :
    threshold ((none : Option String).getD usualProgram.logLevel) = .ok 20 ∧
    ((Settings.ofEnvironment undecodableStack.environment).check undecodableStack.files = .ok () ∧
      (undecodableStack.preflight (Settings.ofEnvironment undecodableStack.environment)).outcome =
        .ok [] ∧
      (execute undecodableStack (Invocation.preflight.words none)).exitCode ≠ 0) ∧
    ((Settings.ofEnvironment completing.environment).check completing.files = .ok () ∧
      (completing.preflight (Settings.ofEnvironment completing.environment)).outcome = .ok [] ∧
      (execute completing (Invocation.preflight.words none)).exitCode ≠ 0) := by
  have hlevel : threshold ((none : Option String).getD usualProgram.logLevel) = .ok 20 :=
    ok_of_toOption (by decide)
  have hheading : ¬∀ line ∈ heading (Settings.ofEnvironment undecodableStack.environment),
      Writable line := by decide +kernel
  refine ⟨hlevel, ⟨ok_of_toOption (by decide), rfl, ?_⟩, ok_of_toOption (by decide), rfl,
    by decide⟩
  rw [execute_words .preflight (by decide) hlevel]
  exact fun h => hheading ((exitCode_preflight_iff rfl).mp h).2.1

end EnclaveFleet.Console
