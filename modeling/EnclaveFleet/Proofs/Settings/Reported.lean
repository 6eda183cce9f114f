import EnclaveFleet.Proofs.Settings.Accepted
import EnclaveFleet.Proofs.Text.Occurrences
import EnclaveFleet.Settings.Change
import EnclaveFleet.Settings.Environment
import EnclaveFleet.Text.Escapes

/-!
# What is reported of settings

A report repeats texts of the environment, some as they are and some in quotes. It has the escape
character only if the environment has it.

* `Environment.NoEscape`, `Settings.Reportable`: environments and settings without that character
* `Settings.problem_cases`: what can be wrong with settings
* `Settings.noEscape_report`: the report of settings without the character has none
* `Settings.noted_of_malformed`: a malformed integer is among the problems, whatever the mode
-/
namespace EnclaveFleet
set_option autoImplicit false

/-- No value has the escape character. -/
def Environment.NoEscape (env : Environment) : Prop :=
  ∀ name value, env name = some value → Text.escapeChar ∉ value.toList

theorem Environment.noEscape_ofList {vars : List (String × String)}
    (h : ∀ v ∈ vars, Text.escapeChar ∉ v.2.toList) : (Environment.ofList vars).NoEscape := by
  intro name value hvalue
  obtain ⟨before, after, hvars, _⟩ := List.lookup_eq_some_iff.mp hvalue
  have hmem : (name, value) ∈ vars.reverse := by simp [hvars]
  exact h _ (List.mem_reverse.mp hmem)

/-! ## Texts without the character -/

theorem noEscape_quotedText (s : String) : Text.escapeChar ∉ s.quotedText.toList := by
  have hescape : Text.isPrintable Text.escapeChar = false := by decide
  intro h
  rw [Text.isPrintable_of_mem_quotedText h] at hescape
  cases hescape

theorem noEscape_toString (n : Int) : Text.escapeChar ∉ (toString n).toList :=
  notMem_toString (by decide) (by decide) n

theorem noEscape_malformedInteger (v : Variable) (value : String) :
    Text.escapeChar ∉ (Environment.malformedInteger v.name value).toList := by
  have hname : Text.escapeChar ∉ v.name.toList := by cases v <;> decide
  show _ ∉ (v.name ++ " must be an integer, got " ++ value.quotedText).toList
  exact notMem_append.mpr ⟨notMem_append.mpr ⟨hname, by decide⟩, noEscape_quotedText value⟩

namespace Settings

/-! ## Problems -/

theorem mem_problemIf {condition : Bool} {p q : Problem} (h : p ∈ problemIf condition q) :
    p = q := by
  cases condition with
  | false => cases h
  | true => exact List.mem_singleton.mp h

theorem boot_problem_cases {s : Settings} {files : Tree} {problems : List Problem}
    (h : s.bootProblems files = .ok problems) {p : Problem} (hp : p ∈ problems) :
    p = .bootMode s.bootMode ∨ p = .scriptMissing s.bootScript := by
  unfold bootProblems at h
  cases hmode : s.mode? with
  | none =>
    rw [hmode] at h
    cases h
    exact .inl (List.mem_singleton.mp hp)
  | some mode =>
    rw [hmode] at h
    cases mode with
    | inline =>
      cases h
      cases hp
    | script =>
      cases hfile : s.bootScript.isFile files with
      | error fault =>
        rw [hfile] at h
        cases h
      | ok found =>
        rw [hfile] at h
        cases h
        exact .inr (mem_problemIf hp)

theorem problem_cases {s : Settings} {files : Tree} {problems : List Problem}
    (h : s.problems files = .ok problems) {p : Problem} (hp : p ∈ problems) :
    (∃ note ∈ s.notes, p = .noted note) ∨ p = .instanceType s.instanceType ∨
      p = .fleetSize s.fleetSize ∨ p = .listenerPort s.listenerPort ∨
      p = .natGateways s.natGateways ∨ p = .noSecretName ∨ p = .noSecretKeys ∨
      (∃ key, p = .secretKey key) ∨ p = .bootMode s.bootMode ∨
      p = .scriptMissing s.bootScript := by
  obtain ⟨boot, hboot, rfl⟩ := problems_eq h
  simp only [fieldProblems, List.mem_append] at hp
  obtain (((((((hp | hp) | hp) | hp) | hp) | hp) | hp) | hp) | hp := hp
  · obtain ⟨note, hnote, rfl⟩ := List.mem_map.mp hp
    exact .inl ⟨note, hnote, rfl⟩
  · simp [mem_problemIf hp]
  · simp [mem_problemIf hp]
  · simp [mem_problemIf hp]
  · simp [mem_problemIf hp]
  · simp [mem_problemIf hp]
  · simp [mem_problemIf hp]
  · obtain ⟨key, _, rfl⟩ := List.mem_map.mp hp
    simp
  · obtain rfl | rfl := boot_problem_cases hboot hp <;> simp

/-! ## The report -/

/-- The texts that a report repeats as they are do not have the escape character. -/
structure Reportable (s : Settings) : Prop where
  notes : ∀ note ∈ s.notes, Text.escapeChar ∉ note.toList
  instanceType : Text.escapeChar ∉ s.instanceType.toList
  bootScript : Text.escapeChar ∉ s.bootScript.text.toList

theorem noEscape_message {s : Settings} (hs : s.Reportable) {files : Tree}
    {problems : List Problem} (h : s.problems files = .ok problems) :
    ∀ p ∈ problems, Text.escapeChar ∉ p.message.toList := by
  intro p hp
  obtain ⟨note, hnote, rfl⟩ | rfl | rfl | rfl | rfl | rfl | rfl | ⟨key, rfl⟩ | rfl | rfl :=
    problem_cases h hp
  · exact hs.notes note hnote
  · show _ ∉ ("Instance type " ++ s.instanceType ++ " does not support Nitro Enclaves").toList
    exact notMem_append.mpr ⟨notMem_append.mpr ⟨by decide, hs.instanceType⟩, by decide⟩
  · show _ ∉ ("TEE_FLEET_SIZE must be at least 1, got " ++ toString s.fleetSize).toList
    exact notMem_append.mpr ⟨by decide, noEscape_toString _⟩
  · show _ ∉ ("TEE_FLEET_LISTENER_PORT out of range: " ++ toString s.listenerPort).toList
    exact notMem_append.mpr ⟨by decide, noEscape_toString _⟩
  · show _ ∉ ("TEE_FLEET_NAT_GATEWAYS cannot be negative, got " ++ toString s.natGateways).toList
    exact notMem_append.mpr ⟨by decide, noEscape_toString _⟩
  · show _ ∉ "TEE_FLEET_SECRET_NAME is not set".toList
    decide
  · show _ ∉ "TEE_FLEET_SECRET_KEYS is empty".toList
    decide
  · show _ ∉ ("Secret key " ++ key.quotedText ++
      " cannot be used as an environment variable name").toList
    exact notMem_append.mpr ⟨notMem_append.mpr ⟨by decide, noEscape_quotedText key⟩, by decide⟩
  · show _ ∉ ("TEE_FLEET_USER_DATA_MODE must be one of " ++ BootMode.names ++ ", got " ++
      s.bootMode.quotedText).toList
    exact notMem_append.mpr ⟨by decide, noEscape_quotedText _⟩
  · show _ ∉ ("Bootstrap script not found: " ++ s.bootScript.text).toList
    exact notMem_append.mpr ⟨by decide, hs.bootScript⟩

theorem noEscape_report {s : Settings} (hs : s.Reportable) {files : Tree}
    {problems : List Problem} (h : s.problems files = .ok problems) :
    Text.escapeChar ∉ (Problem.report problems).toList := by
  have hentries : ∀ text ∈ problems.map (fun p => "  - " ++ p.message),
      Text.escapeChar ∉ text.toList := by
    intro text htext
    obtain ⟨p, hp, rfl⟩ := List.mem_map.mp htext
    exact notMem_append.mpr ⟨by decide, noEscape_message hs h p hp⟩
  unfold Problem.report
  exact notMem_append.mpr ⟨by decide, notMem_intercalate (by decide) hentries⟩

/-! ## Settings of an environment -/

variable {env : Environment}

theorem mem_notes_integer {v : Variable} {default : Int} {note : String}
    (h : note ∈ (env.integer v.name default).2) : Text.escapeChar ∉ note.toList := by
  unfold Environment.integer at h
  split at h
  · cases h
  · next value _ =>
    split at h
    · cases h
    · rw [List.mem_singleton.mp h]
      exact noEscape_malformedInteger v value

theorem noEscape_nonempty (henv : env.NoEscape) {name value : String}
    (h : env.nonempty name = some value) : Text.escapeChar ∉ value.toList :=
  henv name value (Option.filter_eq_some_iff.mp h).1

theorem reportable_ofEnvironment (henv : env.NoEscape) : (ofEnvironment env).Reportable where
  notes := by
    intro note hnote
    obtain hnote | hnote := List.mem_append.mp hnote
    · obtain hnote | hnote := List.mem_append.mp hnote
      · exact mem_notes_integer hnote
      · exact mem_notes_integer hnote
    · exact mem_notes_integer hnote
  instanceType := by
    show _ ∉ ((env.nonempty (Variable.name .instanceType)).getD "m5a.4xlarge").toList
    cases htype : env.nonempty (Variable.name .instanceType) with
    | none => decide
    | some value => exact noEscape_nonempty henv htype
  bootScript := by
    show _ ∉ (((env.nonempty (Variable.name .bootScript)).map
      fun s => BootScript.file (Path.parse s)).getD .shipped).text.toList
    cases hscript : env.nonempty (Variable.name .bootScript) with
    | none => decide
    | some value =>
      exact notMem_parse_text (by decide) (by decide) (noEscape_nonempty henv hscript)

/-- Another mode is reported in quotes. -/
theorem Reportable.withMode {s : Settings} (h : s.Reportable) (mode : Option String) :
    (s.changed (mode.toList.map .bootMode)).Reportable := by
  cases mode with
  | none => exact h
  | some name => exact ⟨h.notes, h.instanceType, h.bootScript⟩

/-! ## Malformed integers -/

/-- The variables that hold integers. -/
def integerVariables : List Variable := [.fleetSize, .listenerPort, .natGateways]

theorem integer_of_unread {name value : String} (default : Int)
    (hfilled : env.filled name = some value) (hparse : Text.Numeral.parse? value.toList = none) :
    env.integer name default = (default, [Environment.malformedInteger name value]) := by
  unfold Environment.integer
  rw [hfilled]
  simp only [hparse]

theorem mem_notes_of_malformed {v : Variable} (hv : v ∈ integerVariables) {value : String}
    (hfilled : env.filled v.name = some value)
    (hparse : Text.Numeral.parse? value.toList = none) :
    Environment.malformedInteger v.name value ∈ (ofEnvironment env).notes := by
  have hnotes : ∀ default, (env.integer v.name default).2 =
      [Environment.malformedInteger v.name value] := fun default => by
    rw [integer_of_unread default hfilled hparse]
  simp only [integerVariables, List.mem_cons, List.not_mem_nil, or_false] at hv
  show _ ∈ (env.integer (Variable.name .fleetSize) 2).2 ++
    (env.integer (Variable.name .listenerPort) 443).2 ++
    (env.integer (Variable.name .natGateways) 1).2
  obtain rfl | rfl | rfl := hv <;> simp [hnotes]

theorem notes_withMode (s : Settings) (mode : Option String) :
    (s.changed (mode.toList.map .bootMode)).notes = s.notes := by
  cases mode <;> rfl

theorem noted_mem_problems {s : Settings} {files : Tree} {problems : List Problem}
    (h : s.problems files = .ok problems) {note : String} (hnote : note ∈ s.notes) :
    .noted note ∈ problems := by
  obtain ⟨boot, _, rfl⟩ := problems_eq h
  simp only [fieldProblems, List.mem_append]
  simp [hnote]

theorem noted_of_malformed {v : Variable} (hv : v ∈ integerVariables) {value : String}
    (hfilled : env.filled v.name = some value)
    (hparse : Text.Numeral.parse? value.toList = none) (mode : Option String) {files : Tree}
    {problems : List Problem}
    (h : ((ofEnvironment env).changed (mode.toList.map .bootMode)).problems files = .ok problems) :
    .noted (Environment.malformedInteger v.name value) ∈ problems := by
  refine noted_mem_problems h ?_
  rw [notes_withMode]
  exact mem_notes_of_malformed hv hfilled hparse

theorem check_of_problems {s : Settings} {files : Tree} {problems : List Problem}
    (h : s.problems files = .ok problems) (hne : problems ≠ []) :
    s.check files = .error (.configuration problems) := by
  unfold check
  rw [h]
  cases problems with
  | nil => exact absurd rfl hne
  | cons p ps => rfl

end Settings
end EnclaveFleet
