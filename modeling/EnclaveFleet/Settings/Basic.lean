import EnclaveFleet.Bootstrap.Script
import EnclaveFleet.Text.Blank
import EnclaveFleet.Text.Split

/-!
# Settings of a fleet

* `Settings`: everything that is decided about a fleet; only names are held here, no secret values
* `Settings.stackId`, `Settings.repoDir`, `Settings.installArgs`: what follows from them
* `BootMode`: the two ways to hand the bootstrap to a host
* `Settings.agree`: equality of settings, whatever was noted while they were read
-/
namespace EnclaveFleet
set_option autoImplicit false

inductive BootMode where
  /-- The steps are the commands of the user data. -/
  | inline
  /-- The user data unpacks a script and runs it. -/
  | script
deriving DecidableEq

namespace BootMode

def all : List BootMode := [.inline, .script]

def name : BootMode → String
  | .inline => "inline"
  | .script => "script"

def ofName? (s : String) : Option BootMode :=
  all.find? (·.name = s)

def names : String :=
  ", ".intercalate (all.map name)

end BootMode

structure Settings where
  stackName : String := "Sp1TeeStack"
  stackPrefix : String := ""
  account : Option String := none
  region : Option String := none
  instanceType : String := "m5a.4xlarge"
  fleetSize : Int := 2
  secretName : String := "sp1_tee"
  secretKeys : List String := ["seal_url", "seal_bearer_token"]
  repoUrl : String := "https://github.com/succinctlabs/sp1-tee.git"
  repoRef : Option String := none
  /-- The name of the mode as it was given, which need not be one. -/
  bootMode : String := "inline"
  bootScript : BootScript := .shipped
  production : Bool := false
  listenerPort : Int := 443
  natGateways : Int := 1
  allowVpcHttps : Bool := true
  /-- What could not be read from the environment. -/
  notes : List String := []
deriving DecidableEq

namespace Settings

def stackId (s : Settings) : String :=
  s.stackPrefix ++ s.stackName

/-- The last name of a repository's address without its `.git`. -/
def repoDirChars (url : List Char) : List Char :=
  let name := Text.afterLast '/' (Text.dropEndWhile (· = '/') url)
  (Text.dropEnding? ".git".toList name).getD name

def repoDir (s : Settings) : String :=
  String.ofList (repoDirChars s.repoUrl.toList)

def installArgs (s : Settings) : List String :=
  if s.production then ["--production"] else []

def mode? (s : Settings) : Option BootMode :=
  BootMode.ofName? s.bootMode

/-- The ref to check out; an empty one is none. -/
def ref? (s : Settings) : Option String :=
  s.repoRef.filter (· ≠ "")

/-- The region as messages name it. -/
def regionText (s : Settings) : String :=
  s.region.getD "None"

def agree (s t : Settings) : Bool :=
  decide ({ s with notes := [] } = { t with notes := [] })

end Settings
end EnclaveFleet
