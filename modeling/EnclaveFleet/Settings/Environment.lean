import EnclaveFleet.Settings.Basic
import EnclaveFleet.Settings.Variable
import EnclaveFleet.Text.CaseMap
import EnclaveFleet.Text.Numeral
import EnclaveFleet.Text.Quoted

/-!
# Settings from environment variables

* `Environment`: the value of each variable that is set
* `Environment.flag`, `Environment.integer`, `Environment.items`: typed values, with a default for
  a variable that is unset or blank
* `Environment.filled_eq_none_iff`, `Environment.filled_eq_some_iff`: when a variable is that
* `Settings.ofEnvironment`: the settings; a malformed integer is noted and not refused
* `Environment.logLevel`: the level of the log
-/
namespace EnclaveFleet
set_option autoImplicit false

abbrev Environment := String → Option String

namespace Environment

def ofList (vars : List (String × String)) : Environment :=
  fun name => vars.reverse.lookup name

/-- The value, unless it is empty. -/
def nonempty (env : Environment) (name : String) : Option String :=
  (env name).filter (· ≠ "")

/-- The value, unless it is blank. -/
def filled (env : Environment) (name : String) : Option String :=
  (env name).filter (!·.isAllBlank)

theorem filled_eq_none_iff {env : Environment} {name : String} :
    env.filled name = none ↔ ∀ value, env name = some value → value.isAllBlank := by
  simp [filled, Option.filter_eq_none_iff]

theorem filled_eq_some_iff {env : Environment} {name value : String} :
    env.filled name = some value ↔ env name = some value ∧ value.isAllBlank = false := by
  simp [filled, Option.filter_eq_some_iff]

def flag (env : Environment) (name : String) (default : Bool) : Bool :=
  match env.filled name with
  | none => default
  | some value => ["1", "true", "yes", "on"].contains value.trimBlanks.lowerCase

def malformedInteger (name value : String) : String :=
  s!"{name} must be an integer, got {value.quotedText}"

/-- The integer, and what there is to note about the variable. -/
def integer (env : Environment) (name : String) (default : Int) : Int × List String :=
  match env.filled name with
  | none => (default, [])
  | some value =>
    match Text.Numeral.parse? value.toList with
    | some n => (n, [])
    | none => (default, [malformedInteger name value])

/-- The items between commas, trimmed; those with nothing in them do not count. -/
def items (env : Environment) (name : String) (default : List String) : List String :=
  match env.filled name with
  | none => default
  | some value => ((value.piecesAt ',').map String.trimBlanks).filter (· ≠ "")

def logLevelVariable : String := "TEE_FLEET_LOG_LEVEL"

def logLevel (env : Environment) : String :=
  ((env logLevelVariable).getD "INFO").upperCase

end Environment

namespace Settings

/-- The region where no variable names one. -/
def defaultRegion : String := "us-east-1"

open Variable (name) in
def ofEnvironment (env : Environment) : Settings :=
  let defaults : Settings := {}
  let fleetSize := env.integer (name .fleetSize) defaults.fleetSize
  let listenerPort := env.integer (name .listenerPort) defaults.listenerPort
  let natGateways := env.integer (name .natGateways) defaults.natGateways
  { stackName := (env.nonempty (name .stackName)).getD defaults.stackName
    stackPrefix := (env (name .stackPrefix)).getD defaults.stackPrefix
    account := (env.nonempty (name .deployAccount)).or (env (name .defaultAccount))
    region := some (((env.nonempty (name .deployRegion)).or
      (env.nonempty (name .defaultRegion))).getD defaultRegion)
    instanceType := (env.nonempty (name .instanceType)).getD defaults.instanceType
    fleetSize := fleetSize.1
    secretName := (env.nonempty (name .secretName)).getD defaults.secretName
    secretKeys := env.items (name .secretKeys) defaults.secretKeys
    repoUrl := (env.nonempty (name .repoUrl)).getD defaults.repoUrl
    repoRef := env.nonempty (name .repoRef)
    bootMode := ((env.nonempty (name .bootMode)).getD defaults.bootMode).lowerCase
    bootScript := ((env.nonempty (name .bootScript)).map
      fun s => BootScript.file (Path.parse s)).getD defaults.bootScript
    production := env.flag (name .production) defaults.production
    listenerPort := listenerPort.1
    natGateways := natGateways.1
    allowVpcHttps := env.flag (name .allowVpcHttps) defaults.allowVpcHttps
    notes := fleetSize.2 ++ listenerPort.2 ++ natGateways.2 }

end Settings
end EnclaveFleet
