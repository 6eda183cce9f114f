import EnclaveFleet.Console.Execute
import EnclaveFleet.Proofs.Console.Showing

/-!
# Calls of the program

* `Invocation`: a command with its options; `Invocation.words` are the words of a call
* `chosen`, `Invocation.settings`: the settings that a call works on
* `readWords_optionWords`: options and their values are read as they were written
* `execute_words`: the words of a call lead to the command
-/
namespace EnclaveFleet.Console
set_option autoImplicit false

/-! ## Calls -/

inductive Invocation where
  | info
  | preflight
  | synth (directory : Option String)
  | userData (mode : Option BootMode)

/-- Each option, followed by its value. -/
def optionWords (given : List (Switch × String)) : List String :=
  given.flatMap fun (s, value) => [s.long, value]

def levelOptions (level : Option String) : List (Switch × String) :=
  level.toList.map fun l => (.logLevel, l)

namespace Invocation

def command : Invocation → Command
  | .info => .info
  | .preflight => .preflight
  | .synth _ => .synth
  | .userData _ => .userData

def options : Invocation → List (Switch × String)
  | .info | .preflight => []
  | .synth directory => directory.toList.map fun d => (.directory, d)
  | .userData mode => mode.toList.map fun m => (.mode, m.name)

def words (level : Option String) (i : Invocation) : List String :=
  optionWords (levelOptions level) ++ i.command.name :: optionWords i.options

end Invocation

/-! ## Settings -/

/-- The settings of the environment, with the mode of the call. -/
def chosen (w : World) (mode : Option BootMode) : Settings :=
  (Settings.ofEnvironment w.environment).changed
    ((mode.map BootMode.name).toList.map .bootMode)

namespace Invocation

def mode? : Invocation → Option BootMode
  | .userData mode => mode
  | _ => none

def settings (w : World) (i : Invocation) : Settings := chosen w i.mode?

/-- What a call does once its words are read. -/
def session (w : World) (log : Nat) : Invocation → Session Unit
  | .info => Console.info w
  | .preflight => Console.preflight w log
  | .synth directory => Console.synth w log (directory.getD defaultDirectory)
  | .userData mode => Console.userData w (mode.map BootMode.name)

end Invocation

theorem loadSettings_eq (w : World) (changes : List Settings.Change) :
    loadSettings w changes =
      (Session.ofExcept (((Settings.ofEnvironment w.environment).changed changes).check
        w.files)).bind fun _ => .pure ((Settings.ofEnvironment w.environment).changed changes) :=
  rfl

/-! ## Reading the words -/

theorem long_injective {s t : Switch} (h : s.long = t.long) : s = t := by
  cases s <;> cases t <;> first | rfl | exact absurd h (by decide)

theorem readWord_long {switches : List Switch} {s : Switch} (hmem : s ∈ switches)
    (hvalue : s.takesValue) :
    Arguments.readWord switches s.long = .ok (.waiting [] ⟨s, s.long⟩) := by
  have hcut : s.long.cutAt '=' = (s.long, none) := by cases s <;> decide
  have hfind : switches.find? (·.long = s.long) = some s := by
    have hsome : (switches.find? (·.long = s.long)).isSome := by
      rw [List.find?_isSome]
      exact ⟨s, hmem, by simp⟩
    obtain ⟨t, ht⟩ := Option.isSome_iff_exists.mp hsome
    have hlong : t.long = s.long := by simpa using List.find?_some ht
    rw [ht, long_injective hlong]
  unfold Arguments.readWord
  simp only [hcut, hfind, hvalue, if_true]

theorem readWords_option {switches : List Switch} {s : Switch} (hmem : s ∈ switches)
    (hvalue : s.takesValue) (allOver : Bool) (value : String) (rest : List String) :
    Arguments.readWords switches allOver none (s.long :: value :: rest) =
      ((Arguments.readWords switches allOver none rest).1.withOption s value,
        (Arguments.readWords switches allOver none rest).2) := by
  have hend : s.long ≠ "--" := by cases s <;> decide
  have hoption : Arguments.isOption s.long := by cases s <;> decide
  rw [Arguments.readWords, if_neg hend, if_pos hoption, readWord_long hmem hvalue]
  -- The next word is the value, even if it looks like an option.
  simp only [Arguments.readWords]
  rfl

theorem readWords_optionWords {switches : List Switch} (allOver : Bool)
    {given : List (Switch × String)}
    (h : ∀ o ∈ given, o.1 ∈ switches ∧ o.1.takesValue) (rest : List String) :
    Arguments.readWords switches allOver none (optionWords given ++ rest) =
      ((Arguments.readWords switches allOver none rest).1.withOptions given,
        (Arguments.readWords switches allOver none rest).2) := by
  induction given with
  | nil => rfl
  | cons o given ih =>
    obtain ⟨⟨hmem, hvalue⟩, hgiven⟩ := List.forall_mem_cons.mp h
    have hwords : optionWords (o :: given) ++ rest =
        o.1.long :: o.2 :: (optionWords given ++ rest) := rfl
    rw [hwords, readWords_option hmem hvalue, ih hgiven]
    rfl

theorem readOptions_of_read (program : Program) {p : Page} {switches : List Switch} {allOver : Bool}
    {words : List String} {a : Arguments} (h : Arguments.read switches allOver words = .ok a)
    (heager : a.eager? = none) : readOptions program p switches allOver words = .pure a := by
  have hanswer : answerEager program p a = .pure () := by rw [answerEager, heager]
  have hsteps : readOptions program p switches allOver words =
      (answerEager program p a).bind fun _ => .pure a := by
    rw [readOptions, h]
    rfl
  rw [hsteps, hanswer, Session.pure_bind]

/-! ## The command -/

variable (w : World) (log : Nat) (i : Invocation)

theorem read_options :
    Arguments.read i.command.switches true (optionWords i.options) = .ok ⟨i.options, []⟩ := by
  have hgiven : ∀ o ∈ i.options, o.1 ∈ i.command.switches ∧ o.1.takesValue := by
    intro o ho
    cases i with
    | info => cases ho
    | preflight => cases ho
    | synth directory =>
      obtain ⟨d, _, rfl⟩ := List.mem_map.mp ho
      exact ⟨.head _, rfl⟩
    | userData mode =>
      obtain ⟨m, _, rfl⟩ := List.mem_map.mp ho
      exact ⟨.head _, rfl⟩
  have hwords := readWords_optionWords true hgiven []
  rw [List.append_nil] at hwords
  unfold Arguments.read
  rw [hwords]
  simp [Arguments.readWords, Arguments.withOptions]

theorem eager_options : (⟨i.options, []⟩ : Arguments).eager? = none := by
  cases i with
  | info => rfl
  | preflight => rfl
  | synth directory => cases directory <;> rfl
  | userData mode => cases mode <;> rfl

theorem argumentError_options : argumentError? ⟨i.options, []⟩ = none := by
  cases i with
  | info => rfl
  | preflight => rfl
  | synth directory => cases directory <;> rfl
  | userData mode =>
    cases mode with
    | none => rfl
    | some m => cases m <;> rfl

theorem perform_options : perform w log i.command ⟨i.options, []⟩ = i.session w log := by
  cases i with
  | info => rfl
  | preflight => rfl
  | synth directory => cases directory <;> rfl
  | userData mode => cases mode <;> rfl

theorem executeCommand_options :
    executeCommand w log i.command (optionWords i.options) = i.session w log := by
  have hread := readOptions_of_read w.program (p := w.program.commandPage i.command)
    (read_options i) (eager_options i)
  rw [executeCommand, hread]
  change (Session.pure _).bind _ = _
  rw [Session.pure_bind, argumentError_options]
  exact perform_options w log i

/-! ## The program -/

theorem read_words (level : Option String) :
    Arguments.read programSwitches false (i.words level) =
      .ok ⟨levelOptions level, i.command.name :: optionWords i.options⟩ := by
  have hgiven : ∀ o ∈ levelOptions level, o.1 ∈ programSwitches ∧ o.1.takesValue := by
    intro o ho
    obtain ⟨l, _, rfl⟩ := List.mem_map.mp ho
    exact ⟨.tail _ (.head _), rfl⟩
  have hend : i.command.name ≠ "--" := by cases i.command <;> decide
  have hoption : Arguments.isOption i.command.name = false := by cases i.command <;> decide
  have hname : Arguments.readWords programSwitches false none
      (i.command.name :: optionWords i.options) =
      ({ others := i.command.name :: optionWords i.options }, none) := by
    rw [Arguments.readWords, if_neg hend, hoption, if_neg Bool.false_ne_true,
      if_neg Bool.false_ne_true]
  unfold Arguments.read Invocation.words
  rw [readWords_optionWords false hgiven, hname]
  simp [Arguments.withOptions]

theorem value_level (level : Option String) (others : List String) :
    (⟨levelOptions level, others⟩ : Arguments).value? .logLevel = level := by
  cases level <;> rfl

theorem eager_level (level : Option String) (others : List String) :
    (⟨levelOptions level, others⟩ : Arguments).eager? = none := by
  cases level <;> rfl

theorem words_ne_nil (level : Option String) : (i.words level).isEmpty = false := by
  cases level <;> rfl

theorem execute_words {w : World} {level : Option String} {log : Nat} (i : Invocation)
    (hcompletion : w.environment.nonempty w.program.completionVariable = none)
    (hlevel : threshold (level.getD w.program.logLevel) = .ok log) :
    execute w (i.words level) = i.session w log := by
  have hread := readOptions_of_read w.program (p := w.program.page) (read_words i level)
    (eager_level level _)
  have hfind : findCommand w.program i.command.name (optionWords i.options) =
      .pure i.command := by
    cases i <;> rfl
  rw [execute, hcompletion]
  simp only
  rw [executeWords, words_ne_nil, if_neg Bool.false_ne_true, hread]
  change (Session.pure _).bind _ = _
  rw [Session.pure_bind]
  change (findCommand _ _ _).bind (fun c =>
    (Session.ofExcept (threshold _)).bind fun log => executeCommand w log c _) = _
  rw [hfind, Session.pure_bind, value_level, hlevel, Session.ofExcept_ok_bind,
    executeCommand_options]

/-! ## Worlds -/

/-- The program where it is called by the name of its function. -/
def usualProgram : Program := ⟨"main", "INFO"⟩

/-- A world with these variables and no files. -/
def worldOf (vars : List (String × String)) : World where
  program := usualProgram
  environment := .ofList vars
  files := .empty
  preflight := fun _ => .pure []

end EnclaveFleet.Console
