import EnclaveFleet.Settings.Basic
import EnclaveFleet.Text.Quoted

/-!
# Settings on one line

* `Settings.description`: every field by name, except what was noted while they were read
-/
namespace EnclaveFleet.Settings
set_option autoImplicit false

def optionText : Option String → String
  | none => "None"
  | some s => s.quotedText

def flagText (b : Bool) : String :=
  if b then "True" else "False"

/-- A single item is followed by a comma. -/
def tupleText : List String → String
  | [] => "()"
  | [s] => "(" ++ s.quotedText ++ ",)"
  | ss => "(" ++ ", ".intercalate (ss.map String.quotedText) ++ ")"

def fieldTexts (s : Settings) : List (String × String) := [
  ("stack_name", s.stackName.quotedText),
  ("stack_prefix", s.stackPrefix.quotedText),
  ("account", optionText s.account),
  ("region", optionText s.region),
  ("instance_type", s.instanceType.quotedText),
  ("fleet_size", toString s.fleetSize),
  ("secret_name", s.secretName.quotedText),
  ("secret_keys", tupleText s.secretKeys),
  ("repo_url", s.repoUrl.quotedText),
  ("repo_ref", optionText s.repoRef),
  ("user_data_mode", s.bootMode.quotedText),
  ("bootstrap_script", "PosixPath(" ++ s.bootScript.text.quotedText ++ ")"),
  ("production", flagText s.production),
  ("listener_port", toString s.listenerPort),
  ("nat_gateways", toString s.natGateways),
  ("allow_vpc_https", flagText s.allowVpcHttps)
]

def description (s : Settings) : String :=
  "FleetSettings(" ++ ", ".intercalate (s.fieldTexts.map fun (name, text) => name ++ "=" ++ text) ++
    ")"

end EnclaveFleet.Settings
