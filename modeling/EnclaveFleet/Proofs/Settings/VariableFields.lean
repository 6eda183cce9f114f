import EnclaveFleet.Proofs.Settings.EmptyVariables
import EnclaveFleet.Proofs.Settings.IntegerVariables
import EnclaveFleet.Settings.Change
import Mathlib.Logic.Function.Basic

/-!
# The fields that variables decide

Each variable decides one field of the settings, and an account or a region is decided by two of
them. A field does not depend on any other variable, and neither do the notes on an integer.

* `Field`, `Variable.field`: the fields, and which of them a variable decides
* `Settings.entry`, `Settings.eq_of_entries`: settings consist of their fields and the notes
* `Settings.entry_congr`, `Settings.notes_congr`: what they depend on in an environment
* `Environment.assign`: an environment with one variable set or unset
* `each_variable_own_field`: what can change when a variable is set or unset
-/
namespace EnclaveFleet
set_option autoImplicit false

inductive Field where
  | stackName
  | stackPrefix
  | account
  | region
  | instanceType
  | fleetSize
  | secretName
  | secretKeys
  | repoUrl
  | repoRef
  | bootMode
  | bootScript
  | production
  | listenerPort
  | natGateways
  | allowVpcHttps
deriving DecidableEq

namespace Variable

def field : Variable → Field
  | .stackName => .stackName
  | .stackPrefix => .stackPrefix
  | .deployAccount | .defaultAccount => .account
  | .deployRegion | .defaultRegion => .region
  | .instanceType => .instanceType
  | .fleetSize => .fleetSize
  | .secretName => .secretName
  | .secretKeys => .secretKeys
  | .repoUrl => .repoUrl
  | .repoRef => .repoRef
  | .bootMode => .bootMode
  | .bootScript => .bootScript
  | .production => .production
  | .listenerPort => .listenerPort
  | .natGateways => .natGateways
  | .allowVpcHttps => .allowVpcHttps

theorem name_ne {v w : Variable} (h : v ≠ w) : v.name ≠ w.name :=
  fun hname => h (name_injective v w hname)

end Variable

/-! ## What a value depends on -/

namespace Environment

variable {env other : Environment} {name : String}

theorem nonempty_congr (h : env name = other name) : env.nonempty name = other.nonempty name := by
  unfold nonempty
  rw [h]

theorem filled_congr (h : env name = other name) : env.filled name = other.filled name := by
  unfold filled
  rw [h]

theorem flag_congr (h : env name = other name) (default : Bool) :
    env.flag name default = other.flag name default := by
  unfold flag
  rw [filled_congr h]

theorem integer_congr (h : env name = other name) (default : Int) :
    env.integer name default = other.integer name default := by
  unfold integer
  rw [filled_congr h]

theorem items_congr (h : env name = other name) (default : List String) :
    env.items name default = other.items name default := by
  unfold items
  rw [filled_congr h]

theorem note?_congr {v : Variable} (h : env v.name = other v.name) :
    env.note? v = other.note? v := by
  unfold note?
  rw [h]

end Environment

namespace Settings

/-! ## Fields -/

/-- The value of a field, as a change to it. -/
def entry (s : Settings) : Field → Change
  | .stackName => .stackName s.stackName
  | .stackPrefix => .stackPrefix s.stackPrefix
  | .account => .account s.account
  | .region => .region s.region
  | .instanceType => .instanceType s.instanceType
  | .fleetSize => .fleetSize s.fleetSize
  | .secretName => .secretName s.secretName
  | .secretKeys => .secretKeys s.secretKeys
  | .repoUrl => .repoUrl s.repoUrl
  | .repoRef => .repoRef s.repoRef
  | .bootMode => .bootMode s.bootMode
  | .bootScript => .bootScript s.bootScript
  | .production => .production s.production
  | .listenerPort => .listenerPort s.listenerPort
  | .natGateways => .natGateways s.natGateways
  | .allowVpcHttps => .allowVpcHttps s.allowVpcHttps

/-- Nothing else is in the settings. -/
theorem eq_of_entries {s t : Settings} (h : ∀ f, s.entry f = t.entry f)
    (hnotes : s.notes = t.notes) : s = t := by
  cases s
  cases t
  rw [Settings.mk.injEq]
  exact ⟨Change.stackName.inj (h .stackName), Change.stackPrefix.inj (h .stackPrefix),
    Change.account.inj (h .account), Change.region.inj (h .region),
    Change.instanceType.inj (h .instanceType), Change.fleetSize.inj (h .fleetSize),
    Change.secretName.inj (h .secretName), Change.secretKeys.inj (h .secretKeys),
    Change.repoUrl.inj (h .repoUrl), Change.repoRef.inj (h .repoRef),
    Change.bootMode.inj (h .bootMode), Change.bootScript.inj (h .bootScript),
    Change.production.inj (h .production), Change.listenerPort.inj (h .listenerPort),
    Change.natGateways.inj (h .natGateways), Change.allowVpcHttps.inj (h .allowVpcHttps), hnotes⟩

theorem entry_congr {env other : Environment} {f : Field}
    (h : ∀ v : Variable, v.field = f → env v.name = other v.name) :
    (ofEnvironment env).entry f = (ofEnvironment other).entry f := by
  cases f with
  | stackName => simp only [entry, ofEnvironment, Environment.nonempty_congr (h .stackName rfl)]
  | stackPrefix => simp only [entry, ofEnvironment, h .stackPrefix rfl]
  | account =>
    simp only [entry, ofEnvironment, Environment.nonempty_congr (h .deployAccount rfl),
      h .defaultAccount rfl]
  | region =>
    simp only [entry, ofEnvironment, Environment.nonempty_congr (h .deployRegion rfl),
      Environment.nonempty_congr (h .defaultRegion rfl)]
  | instanceType => simp only [entry, ofEnvironment, Environment.nonempty_congr (h .instanceType rfl)]
  | fleetSize => simp only [entry, ofEnvironment, Environment.integer_congr (h .fleetSize rfl)]
  | secretName => simp only [entry, ofEnvironment, Environment.nonempty_congr (h .secretName rfl)]
  | secretKeys => simp only [entry, ofEnvironment, Environment.items_congr (h .secretKeys rfl)]
  | repoUrl => simp only [entry, ofEnvironment, Environment.nonempty_congr (h .repoUrl rfl)]
  | repoRef => simp only [entry, ofEnvironment, Environment.nonempty_congr (h .repoRef rfl)]
  | bootMode => simp only [entry, ofEnvironment, Environment.nonempty_congr (h .bootMode rfl)]
  | bootScript => simp only [entry, ofEnvironment, Environment.nonempty_congr (h .bootScript rfl)]
  | production => simp only [entry, ofEnvironment, Environment.flag_congr (h .production rfl)]
  | listenerPort => simp only [entry, ofEnvironment, Environment.integer_congr (h .listenerPort rfl)]
  | natGateways => simp only [entry, ofEnvironment, Environment.integer_congr (h .natGateways rfl)]
  | allowVpcHttps => simp only [entry, ofEnvironment, Environment.flag_congr (h .allowVpcHttps rfl)]

theorem notes_congr {env other : Environment}
    (h : ∀ v ∈ integerVariables, env v.name = other v.name) :
    (ofEnvironment env).notes = (ofEnvironment other).notes := by
  rw [notes_ofEnvironment, notes_ofEnvironment]
  apply List.filterMap_congr
  intro v hv
  exact Environment.note?_congr (h v hv)

theorem ofEnvironment_congr {env other : Environment}
    (h : ∀ v : Variable, env v.name = other v.name) : ofEnvironment env = ofEnvironment other :=
  eq_of_entries (fun _ => entry_congr fun v _ => h v) (notes_congr fun v _ => h v)

end Settings

/-! ## One variable -/

namespace Environment

/-- The environment with a variable set, or unset. -/
def assign (env : Environment) (name : String) (value : Option String) : Environment :=
  Function.update env name value

theorem assign_self (env : Environment) (name : String) (value : Option String) :
    env.assign name value name = value := by
  unfold assign
  rw [Function.update_self]

theorem assign_other (env : Environment) {name other : String} (h : other ≠ name)
    (value : Option String) : env.assign name value other = env other := by
  unfold assign
  rw [Function.update_of_ne h]

/-- What a text is noted for as the value of the variable. -/
def noteOn (v : Variable) (text : String) : List String :=
  if Malformed text then [malformedInteger v.name text] else []

theorem note?_unset (env : Environment) (v : Variable) :
    (env.assign v.name none).note? v = none := by
  unfold note?
  rw [assign_self]
  rfl

theorem toList_note?_set (env : Environment) (v : Variable) (text : String) :
    ((env.assign v.name (some text)).note? v).toList = noteOn v text := by
  unfold note? noteOn
  rw [assign_self]
  by_cases h : Malformed text <;> simp [Option.filter, h]

end Environment

namespace Settings

variable (env : Environment)

/-- The fields of other variables stay. -/
theorem entry_assign {v : Variable} {f : Field} (hf : f ≠ v.field) (value : Option String) :
    (ofEnvironment (env.assign v.name value)).entry f = (ofEnvironment env).entry f := by
  apply entry_congr
  rintro w rfl
  have hne : w ≠ v := fun h => hf (by rw [h])
  exact env.assign_other (Variable.name_ne hne) value

theorem notes_assign_of_not {v : Variable} (hv : v ∉ integerVariables) (value : Option String) :
    (ofEnvironment (env.assign v.name value)).notes = (ofEnvironment env).notes := by
  apply notes_congr
  intro w hw
  exact env.assign_other (Variable.name_ne (ne_of_mem_of_not_mem hw hv)) value

/-- What is noted about a variable stands between the notes on the others. -/
theorem exists_notes_assign {v : Variable} (hv : v ∈ integerVariables) :
    ∃ before after, ∀ value, (ofEnvironment (env.assign v.name value)).notes =
      before ++ ((env.assign v.name value).note? v).toList ++ after := by
  obtain ⟨vs, ws, hcut⟩ := List.append_of_mem hv
  have hnodup : (vs ++ v :: ws).Nodup := hcut ▸ by decide
  have hnot : v ∉ vs ++ ws := (List.nodup_middle.mp hnodup |> List.nodup_cons.mp).1
  have hother : ∀ value, ∀ w ∈ vs ++ ws, (env.assign v.name value).note? w = env.note? w := by
    intro value w hw
    have hne : w ≠ v := ne_of_mem_of_not_mem hw hnot
    exact Environment.note?_congr (env.assign_other (Variable.name_ne hne) value)
  refine ⟨vs.filterMap env.note?, ws.filterMap env.note?, fun value => ?_⟩
  have hvs := List.filterMap_congr fun w hw => hother value w (List.mem_append_left ws hw)
  have hws := List.filterMap_congr fun w hw => hother value w (List.mem_append_right vs hw)
  rw [notes_ofEnvironment, hcut, List.filterMap_append, hvs, List.append_assoc]
  cases hnote : (env.assign v.name value).note? v with
  | none => rw [List.filterMap_cons_none hnote, hws]; rfl
  | some note => rw [List.filterMap_cons_some hnote, hws]; rfl

/-! ## Accounts and regions -/

theorem account_of_deploy {account : String}
    (h : env.nonempty (Variable.name .deployAccount) = some account) :
    (ofEnvironment env).account = some account := by
  rw [account_ofEnvironment, h]
  rfl

theorem region_of_deploy {region : String}
    (h : env.nonempty (Variable.name .deployRegion) = some region) :
    (ofEnvironment env).region = some region := by
  simp only [ofEnvironment, h]
  rfl

/-- A variable of the same field is not looked at where the field has its value already. -/
theorem ofEnvironment_assign_eq {v : Variable} (hv : v ∉ integerVariables) {value : Option String}
    (h : (ofEnvironment (env.assign v.name value)).entry v.field =
      (ofEnvironment env).entry v.field) :
    ofEnvironment (env.assign v.name value) = ofEnvironment env := by
  refine eq_of_entries (fun f => ?_) (notes_assign_of_not env hv value)
  by_cases hf : f = v.field
  · rw [hf, h]
  · exact entry_assign env hf value

theorem ofEnvironment_defaultAccount {account : String}
    (h : env.nonempty (Variable.name .deployAccount) = some account) (value : Option String) :
    ofEnvironment (env.assign (Variable.name .defaultAccount) value) = ofEnvironment env := by
  have hsame : (env.assign (Variable.name .defaultAccount) value).nonempty
      (Variable.name .deployAccount) = some account := by
    rw [← h]
    exact Environment.nonempty_congr (env.assign_other (by decide) value)
  apply ofEnvironment_assign_eq env (by decide)
  show Change.account _ = Change.account _
  rw [account_of_deploy _ hsame, account_of_deploy _ h]

theorem ofEnvironment_defaultRegion {region : String}
    (h : env.nonempty (Variable.name .deployRegion) = some region) (value : Option String) :
    ofEnvironment (env.assign (Variable.name .defaultRegion) value) = ofEnvironment env := by
  have hsame : (env.assign (Variable.name .defaultRegion) value).nonempty
      (Variable.name .deployRegion) = some region := by
    rw [← h]
    exact Environment.nonempty_congr (env.assign_other (by decide) value)
  apply ofEnvironment_assign_eq env (by decide)
  show Change.region _ = Change.region _
  rw [region_of_deploy _ hsame, region_of_deploy _ h]

end Settings

open Settings in
/-- A variable decides its own field and nothing else, and what is noted is noted about itself. -/
theorem each_variable_own_field (env : Environment) :
    (∀ (v : Variable) (x : String),
      (∀ f, f ≠ v.field → (ofEnvironment (env.assign v.name (some x))).entry f =
        (ofEnvironment (env.assign v.name none)).entry f) ∧
      (v ∉ integerVariables → (ofEnvironment (env.assign v.name (some x))).notes =
        (ofEnvironment (env.assign v.name none)).notes) ∧
      (v ∈ integerVariables → ∃ before after,
        (ofEnvironment (env.assign v.name none)).notes = before ++ after ∧
        (ofEnvironment (env.assign v.name (some x))).notes =
          before ++ Environment.noteOn v x ++ after)) ∧
    (∀ name x, (∀ v : Variable, v.name ≠ name) →
      ofEnvironment (env.assign name (some x)) = ofEnvironment (env.assign name none)) ∧
    (∀ account value, env (Variable.name .deployAccount) = some account → account ≠ "" →
      ofEnvironment (env.assign (Variable.name .defaultAccount) value) = ofEnvironment env) ∧
    (∀ region value, env (Variable.name .deployRegion) = some region → region ≠ "" →
      ofEnvironment (env.assign (Variable.name .defaultRegion) value) = ofEnvironment env) := by
  refine ⟨fun v x => ⟨?_, ?_, ?_⟩, ?_, ?_, ?_⟩
  · intro f hf
    rw [entry_assign env hf, entry_assign env hf]
  · intro hv
    rw [notes_assign_of_not env hv, notes_assign_of_not env hv]
  · intro hv
    obtain ⟨before, after, hnotes⟩ := exists_notes_assign env hv
    refine ⟨before, after, ?_, ?_⟩
    · rw [hnotes, Environment.note?_unset]
      simp
    · rw [hnotes, Environment.toList_note?_set]
  · intro name x hname
    apply ofEnvironment_congr
    intro v
    rw [env.assign_other (hname v), env.assign_other (hname v)]
  · intro account value hvalue hne
    exact ofEnvironment_defaultAccount env
      (Option.filter_eq_some_iff.mpr ⟨hvalue, by simpa using hne⟩) value
  · intro region value hvalue hne
    exact ofEnvironment_defaultRegion env
      (Option.filter_eq_some_iff.mpr ⟨hvalue, by simpa using hne⟩) value

/-- Where the fleet goes is given, and two of the integers are malformed. -/
def placed : Environment := .ofList [(Variable.name .deployAccount, "123456789012"),
  (Variable.name .deployRegion, "eu-west-1"), (Variable.name .fleetSize, "two"),
  (Variable.name .natGateways, "none")]

open Settings in
theorem each_variable_own_field_placed :
    (ofEnvironment (placed.assign (Variable.name .listenerPort) (some "https"))).natGateways =
      (ofEnvironment (placed.assign (Variable.name .listenerPort) none)).natGateways ∧
    (∃ before after,
      (ofEnvironment (placed.assign (Variable.name .listenerPort) none)).notes =
        before ++ after ∧
      (ofEnvironment (placed.assign (Variable.name .listenerPort) (some "https"))).notes =
        before ++ ["TEE_FLEET_LISTENER_PORT must be an integer, got 'https'"] ++ after) ∧
    (ofEnvironment (placed.assign (Variable.name .repoRef) (some "https"))).notes =
      (ofEnvironment (placed.assign (Variable.name .repoRef) none)).notes ∧
    ofEnvironment (placed.assign "TEE_FLEET_LOG_LEVEL" (some "DEBUG")) =
      ofEnvironment (placed.assign "TEE_FLEET_LOG_LEVEL" none) ∧
    ofEnvironment (placed.assign (Variable.name .defaultAccount) (some "")) =
      ofEnvironment placed ∧
    ofEnvironment (placed.assign (Variable.name .defaultRegion) (some "us-west-2")) =
      ofEnvironment placed := by
  obtain ⟨hown, hforeign, haccount, hregion⟩ := each_variable_own_field placed
  obtain ⟨hport, -, hnotes⟩ := hown .listenerPort "https"
  have hnote : Environment.noteOn .listenerPort "https" =
      ["TEE_FLEET_LISTENER_PORT must be an integer, got 'https'"] := by decide +kernel
  refine ⟨Change.natGateways.inj (hport .natGateways (by decide)), ?_, ?_, ?_, ?_, ?_⟩
  · rw [← hnote]
    exact hnotes (by decide)
  · exact (hown .repoRef "https").2.1 (by decide)
  · exact hforeign _ "DEBUG" fun v => by cases v <;> decide
  · exact haccount "123456789012" _ (by decide) (by decide)
  · exact hregion "eu-west-1" _ (by decide) (by decide)

end EnclaveFleet
