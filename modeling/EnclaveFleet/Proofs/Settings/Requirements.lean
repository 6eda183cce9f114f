import EnclaveFleet.Proofs.Settings.Accepted
import EnclaveFleet.Proofs.Settings.Reported

/-!
# What settings must meet

Settings pass when nothing was noted while they were read and they meet every requirement. What they
do not meet is reported in the order of the requirements, behind the notes, and nothing else is.

* `Requirement`, `Settings.requirements`: what is required, a key of the secret at a time
* `Settings.Met`: when a requirement is met
* `Settings.violated`, `Settings.complaint`: what is not met, and how it is reported
* `Settings.problems_eq_complaints`: the problems are the notes and the complaints
* `Settings.check_reports`: when settings pass, and the whole report when they do not
-/
namespace EnclaveFleet
set_option autoImplicit false

/-! ## Names of variables -/

namespace VariableName

def Letter (c : Char) : Prop := ('A' ≤ c ∧ c ≤ 'Z') ∨ ('a' ≤ c ∧ c ≤ 'z') ∨ c = '_'

def Digit (c : Char) : Prop := '0' ≤ c ∧ c ≤ '9'

/-- An identifier of ASCII. -/
def Identifier : List Char → Prop
  | [] => False
  | c :: cs => Letter c ∧ ∀ d ∈ cs, Letter d ∨ Digit d

theorem isStart_iff (c : Char) : isStart c = true ↔ Letter c := by
  have halpha : c.isAlpha = (c.isUpper || c.isLower) := rfl
  have hupper : c.isUpper = decide ('A'.val ≤ c.val ∧ c.val ≤ 'Z'.val) := rfl
  have hlower : c.isLower = ('a'.val ≤ c.val && c.val ≤ 'z'.val) := rfl
  simp only [isStart, Letter, halpha, hupper, hlower, Bool.or_eq_true, Bool.and_eq_true,
    decide_eq_true_eq, Char.le_def, or_assoc]

theorem isRest_iff (c : Char) : isRest c = true ↔ Letter c ∨ Digit c := by
  have hrest : isRest c = (isStart c || c.isDigit) := by
    simp only [isRest, isStart, Char.isAlphanum]
    cases c.isAlpha <;> cases c.isDigit <;> simp
  rw [hrest, Bool.or_eq_true, isStart_iff]
  simp only [Digit, Char.isDigit, Bool.and_eq_true, decide_eq_true_eq, ge_iff_le, Char.le_def]

theorem accepts_iff (name : List Char) : accepts name = true ↔ Identifier name := by
  cases name with
  | nil => simp [accepts, Identifier]
  | cons c cs => simp [accepts, Identifier, isStart_iff, isRest_iff]

end VariableName

/-! ## Requirements -/

inductive Requirement where
  | instanceType
  | fleetSize
  | listenerPort
  | natGateways
  | secretName
  | secretKeys
  | secretKey (key : String)
  | bootMode
deriving DecidableEq

namespace Settings

/-- In the order in which they are reported; a key of the secret counts as often as it is given. -/
def requirements (s : Settings) : List Requirement :=
  [.instanceType, .fleetSize, .listenerPort, .natGateways, .secretName, .secretKeys] ++
    s.secretKeys.map .secretKey ++ [.bootMode]

def Met (s : Settings) (files : Tree) : Requirement → Prop
  | .instanceType => InstanceType.supportsEnclaves s.instanceType = true
  | .fleetSize => 1 ≤ s.fleetSize
  | .listenerPort => 1 ≤ s.listenerPort ∧ s.listenerPort ≤ 65535
  | .natGateways => 0 ≤ s.natGateways
  | .secretName => s.secretName ≠ ""
  | .secretKeys => s.secretKeys ≠ []
  | .secretKey key => VariableName.Identifier key.toList
  | .bootMode =>
    s.bootMode = "inline" ∨ (s.bootMode = "script" ∧ s.bootScript.isFile files = .ok true)

instance decidableFound (script : BootScript) (files : Tree) :
    Decidable (script.isFile files = .ok true) :=
  decidable_of_iff ((script.isFile files).toOption = some true)
    ⟨ok_of_toOption, fun h => by rw [h]; rfl⟩

instance decidableMet (s : Settings) (files : Tree) : DecidablePred (s.Met files)
  | .instanceType => inferInstanceAs (Decidable (_ = true))
  | .fleetSize => inferInstanceAs (Decidable (1 ≤ s.fleetSize))
  | .listenerPort => inferInstanceAs (Decidable (_ ∧ _))
  | .natGateways => inferInstanceAs (Decidable (0 ≤ s.natGateways))
  | .secretName => inferInstanceAs (Decidable (s.secretName ≠ ""))
  | .secretKeys => inferInstanceAs (Decidable (s.secretKeys ≠ []))
  | .secretKey key => decidable_of_iff _ (VariableName.accepts_iff key.toList)
  | .bootMode => inferInstanceAs (Decidable (_ ∨ (_ ∧ _)))

def violated (s : Settings) (files : Tree) : List Requirement :=
  s.requirements.filter fun r => ¬s.Met files r

def complaint (s : Settings) : Requirement → Problem
  | .instanceType => .instanceType s.instanceType
  | .fleetSize => .fleetSize s.fleetSize
  | .listenerPort => .listenerPort s.listenerPort
  | .natGateways => .natGateways s.natGateways
  | .secretName => .noSecretName
  | .secretKeys => .noSecretKeys
  | .secretKey key => .secretKey key
  | .bootMode => if s.bootMode = "script" then .scriptMissing s.bootScript else .bootMode s.bootMode

/-! ## Problems -/

variable {s : Settings} {files : Tree}

theorem complaints_singleton (s : Settings) (files : Tree) (r : Requirement) (condition : Bool)
    (h : condition = true ↔ ¬s.Met files r) :
    ([r].filter fun r => ¬s.Met files r).map s.complaint = problemIf condition (s.complaint r) := by
  by_cases hmet : s.Met files r
  · have hcondition : condition = false := by simpa [hmet] using h
    simp [hmet, hcondition, problemIf]
  · have hcondition : condition = true := h.mpr hmet
    simp [hmet, hcondition, problemIf]

theorem keyProblems_eq : s.keyProblems =
    ((s.secretKeys.map .secretKey).filter fun r => ¬s.Met files r).map s.complaint := by
  have hnot : ∀ key : String, (!VariableName.accepts key.toList) =
      decide (¬s.Met files (.secretKey key)) := fun key => by
    rw [Bool.eq_iff_iff]
    simp [Met, ← VariableName.accepts_iff]
  simp only [keyProblems, hnot, List.filter_map, List.map_map]
  rfl

theorem mode_eq (s : Settings) : s.mode? =
    if s.bootMode = "inline" then some .inline
    else if s.bootMode = "script" then some .script else none := by
  simp only [mode?, BootMode.ofName?, BootMode.all, BootMode.name, List.find?_cons, List.find?_nil,
    eq_comm (b := s.bootMode)]
  by_cases hinline : s.bootMode = "inline"
  · simp [hinline]
  · by_cases hscript : s.bootMode = "script" <;> simp [hinline, hscript]

/-- A script that is looked for is there or not. -/
theorem bootProblems_eq (hfile : s.bootMode = "script" →
      ∃ found, s.bootScript.isFile files = .ok found) :
    s.bootProblems files =
      .ok (([.bootMode].filter fun r => ¬s.Met files r).map s.complaint) := by
  have hne : "script" ≠ "inline" := by decide
  rw [bootProblems, mode_eq]
  by_cases hscript : s.bootMode = "script"
  · obtain ⟨found, hfound⟩ := hfile hscript
    have hmet : s.Met files .bootMode ↔ found = true := by simp [Met, hscript, hfound, hne]
    have hcomplaints := complaints_singleton s files .bootMode
      (!found) (by simp [hmet])
    rw [hcomplaints, hscript, if_neg hne, if_pos rfl]
    simp only [hfound, complaint, if_pos hscript]
  · by_cases hinline : s.bootMode = "inline"
    · have hmet : s.Met files .bootMode := .inl hinline
      simp [hinline, hmet]
    · have hmet : ¬s.Met files .bootMode := by simp [Met, hinline, hscript]
      simp [hinline, hscript, hmet, complaint]

theorem problems_eq_complaints (hfile : s.bootMode = "script" →
      ∃ found, s.bootScript.isFile files = .ok found) :
    s.problems files =
      .ok (s.notes.map .noted ++ (s.violated files).map s.complaint) := by
  rw [problems, bootProblems_eq hfile]
  have htype := complaints_singleton s files .instanceType
    (!InstanceType.supportsEnclaves s.instanceType) (by simp [Met])
  have hsize := complaints_singleton s files .fleetSize
    (s.fleetSize < 1) (by simp [Met])
  have hport := complaints_singleton s files .listenerPort
    (!(1 ≤ s.listenerPort && s.listenerPort ≤ 65535)) (by simp [Met]; omega)
  have hgateways := complaints_singleton s files .natGateways
    (s.natGateways < 0) (by simp [Met])
  have hname := complaints_singleton s files .secretName
    (s.secretName == "") (by simp [Met])
  have hkeys := complaints_singleton s files .secretKeys
    (s.secretKeys.isEmpty) (by simp [Met])
  have hsplit : s.requirements = [.instanceType] ++ [.fleetSize] ++ [.listenerPort] ++
      [.natGateways] ++ [.secretName] ++ [.secretKeys] ++ s.secretKeys.map .secretKey ++
      [.bootMode] := rfl
  simp only [violated, hsplit, List.filter_append, List.map_append, htype, hsize, hport,
    hgateways, hname, hkeys, ← keyProblems_eq]
  simp only [Except.map, fieldProblems, complaint, List.append_assoc]

/-! ## The report -/

theorem length_complaints (s : Settings) (files : Tree) :
    (s.notes.map Problem.noted ++ (s.violated files).map s.complaint).length =
      s.notes.length + (s.violated files).length := by
  rw [List.length_append, List.length_map, List.length_map]

theorem intercalate_eq_join (sep x : String) (xs : List String) :
    sep ++ sep.intercalate (x :: xs) = String.join ((x :: xs).map (sep ++ ·)) := by
  induction xs generalizing x with
  | nil => simp
  | cons y xs ih =>
    rw [String.intercalate_cons_cons, String.append_assoc, ih y, List.map_cons (a := x),
      String.join_cons, String.append_assoc]

/-- Every entry begins on a line of its own. -/
theorem report_eq {problems : List Problem} (hne : problems ≠ []) :
    Problem.report problems = "Configuration errors:" ++
      String.join (problems.map fun p => "\n  - " ++ p.message) := by
  have hentry : "\n  - " = "\n" ++ "  - " := by decide
  have hhead : "Configuration errors:\n" = "Configuration errors:" ++ "\n" := by decide
  have hreport : Problem.report problems = "Configuration errors:" ++
      ("\n" ++ "\n".intercalate (problems.map fun p => "  - " ++ p.message)) := by
    rw [← String.append_assoc]
    exact congrArg (· ++ _) hhead
  have hjoin : problems.map (fun p => "\n  - " ++ p.message) =
      (problems.map fun p => "  - " ++ p.message).map ("\n" ++ ·) := by
    rw [List.map_map]
    refine List.map_congr_left fun p _ => ?_
    rw [Function.comp_apply, ← String.append_assoc]
    exact congrArg (· ++ _) hentry
  obtain ⟨p, ps, rfl⟩ := List.exists_cons_of_ne_nil hne
  rw [hreport, hjoin, List.map_cons, intercalate_eq_join]

/-- Settings pass exactly when nothing was noted and every requirement is met; else the notes and
one entry for each requirement that is not met are reported, in this order. -/
theorem check_reports (s : Settings) (files : Tree)
    (hfile : s.bootMode = "script" → ∃ found, s.bootScript.isFile files = .ok found) :
    (s.check files = .ok () ↔ s.notes = [] ∧ ∀ r ∈ s.requirements, s.Met files r) ∧
    (s.check files ≠ .ok () → ∃ problems, s.check files = .error (.configuration problems) ∧
      problems.map Problem.message =
        s.notes ++ (s.violated files).map (fun r => (s.complaint r).message) ∧
      problems.length = s.notes.length + (s.violated files).length ∧
      (Failure.configuration problems).message = "Configuration errors:" ++
        String.join (problems.map fun p => "\n  - " ++ p.message)) := by
  have hproblems := problems_eq_complaints hfile
  constructor
  · rw [check_eq_ok_iff, hproblems]
    simp only [Except.ok.injEq, List.append_eq_nil_iff, List.map_eq_nil_iff, violated,
      List.filter_eq_nil_iff, decide_eq_true_eq, Decidable.not_not]
  · intro hcheck
    have hne : s.notes.map Problem.noted ++ (s.violated files).map s.complaint ≠ [] := fun hnil =>
      hcheck ((check_eq_ok_iff s files).mpr (hnil ▸ hproblems))
    refine ⟨_, check_of_problems hproblems hne, ?_, length_complaints s files, report_eq hne⟩
    rw [List.map_append, List.map_map, List.map_map]
    congr 1
    exact List.map_id _

/-- Nothing is right but the number of keys; one of them is given twice. -/
def misconfigured : Settings where
  instanceType := "t3.micro"
  fleetSize := 0
  secretName := ""
  secretKeys := ["seal_url", "1st", "1st"]
  bootMode := "script"
  bootScript := .file ⟨.relative, ["missing.sh"]⟩
  listenerPort := 65536
  natGateways := -1
  notes := ["TEE_FLEET_SIZE must be an integer, got 'two'"]

theorem check_reports_misconfigured :
    ∃ problems, misconfigured.check Tree.empty = .error (.configuration problems) ∧
      problems.length = 9 := by
  have hfile : misconfigured.bootScript.isFile Tree.empty = .ok false :=
    ok_of_toOption (by decide)
  obtain ⟨hpass, hreport⟩ := check_reports misconfigured Tree.empty fun _ => ⟨false, hfile⟩
  obtain ⟨problems, hcheck, -, hlength, -⟩ := hreport fun hok => absurd (hpass.mp hok).1 (by decide)
  have hviolated : (misconfigured.violated Tree.empty).length = 8 := by decide
  exact ⟨problems, hcheck, by rw [hlength, hviolated]; rfl⟩

end Settings
end EnclaveFleet
