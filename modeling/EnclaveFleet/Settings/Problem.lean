import EnclaveFleet.Settings.Basic
import EnclaveFleet.Text.Quoted

/-!
# What can be wrong with a configuration

* `Problem`: one thing that keeps a fleet from being built
* `Problem.message`: how it is reported
-/
namespace EnclaveFleet
set_option autoImplicit false

inductive Problem where
  /-- Something that was put into words before. -/
  | noted (text : String)
  | instanceType (name : String)
  | fleetSize (n : Int)
  | listenerPort (n : Int)
  | natGateways (n : Int)
  | noSecretName
  | noSecretKeys
  | secretKey (key : String)
  | bootMode (name : String)
  | scriptMissing (script : BootScript)
  | scriptUnreadable (script : BootScript) (fault : ReadFault)
  | scriptBlank (script : BootScript)
  /-- The mode is unknown when the user data is made. -/
  | unknownMode (name : String)
deriving DecidableEq

namespace Problem

def message : Problem → String
  | .noted text => text
  | .instanceType name => s!"Instance type {name} does not support Nitro Enclaves"
  | .fleetSize n => s!"TEE_FLEET_SIZE must be at least 1, got {n}"
  | .listenerPort n => s!"TEE_FLEET_LISTENER_PORT out of range: {n}"
  | .natGateways n => s!"TEE_FLEET_NAT_GATEWAYS cannot be negative, got {n}"
  | .noSecretName => "TEE_FLEET_SECRET_NAME is not set"
  | .noSecretKeys => "TEE_FLEET_SECRET_KEYS is empty"
  | .secretKey key =>
    s!"Secret key {key.quotedText} cannot be used as an environment variable name"
  | .bootMode name =>
    s!"TEE_FLEET_USER_DATA_MODE must be one of {BootMode.names}, got {name.quotedText}"
  | .scriptMissing script => s!"Bootstrap script not found: {script.text}"
  | .scriptUnreadable script fault =>
    s!"Cannot read bootstrap script {script.text}: {fault.message script.text}"
  | .scriptBlank script => s!"Bootstrap script {script.text} is empty"
  | .unknownMode name =>
    s!"Unknown user data mode {name.quotedText} (expected one of {BootMode.names})"

/-- All problems in one text, an entry for each. -/
def report (ps : List Problem) : String :=
  "Configuration errors:\n" ++ "\n".intercalate (ps.map fun p => "  - " ++ p.message)

end Problem
end EnclaveFleet
