import EnclaveFleet.Deferred
import EnclaveFleet.Failure
import EnclaveFleet.Stack.Name

/-!
# Where a stack goes

* `Target`: an account and a region; either can be left to the deployment
* `ZoneNames`, `Lookup`: the zones of a region, and what is known of them for a target
* `Placement`: the id of a stack, its target and what the stack is said to be
* `Placement.knowing`: the same with the zones of the target
* `Placement.label`, `Placement.name`: the id as a part of paths, and the name that it gives
* `Placement.checkName`: the stack can be declared under its id
* `Placement.checkEnvironment`: the account and the region name an environment
-/
namespace EnclaveFleet
set_option autoImplicit false

structure Target where
  account : Option String
  region : Option String
deriving DecidableEq

/-- No target where neither the account nor the region is given. -/
def Settings.target? (s : Settings) : Option Target :=
  if s.account.getD "" = "" ∧ s.region.getD "" = "" then none else some ⟨s.account, s.region⟩

/-- The zones of a region, of which there is at least one. -/
structure ZoneNames where
  first : String
  others : List String
deriving DecidableEq

def ZoneNames.all (z : ZoneNames) : List String := z.first :: z.others

/-- What the cloud was asked before about the zones of a target. -/
abbrev Lookup : Type := Target → Option ZoneNames

def nothingKnown : Lookup := fun _ => none

structure Placement where
  id : String
  target : Option Target := none
  description : Option String := none
  /-- The zones of the target, if they are known. -/
  zoneNames? : Option ZoneNames := none

namespace Placement

def fleetDescription : String :=
  "Nitro Enclave host fleet behind an internal network load balancer"

/-- The place of the stack that the settings describe. -/
def ofSettings (s : Settings) : Placement where
  id := s.stackId
  target := s.target?
  description := some fleetDescription

def knowing (p : Placement) (known : Lookup) : Placement :=
  { p with zoneNames? := p.target.bind known }

/-- A place of which only the id is known. -/
def bare (id : String) : Placement := { id := id }

def account? (p : Placement) : Option String := p.target.bind (·.account)

def region? (p : Placement) : Option String := p.target.bind (·.region)

def account (p : Placement) : Deferred :=
  match p.account? with
  | some a => .ofString a
  | none => .ofParameter .accountId

def region (p : Placement) : Deferred :=
  match p.region? with
  | some r => .ofString r
  | none => .ofParameter .region

/-- Both the account and the region are known before the deployment. -/
def isConcrete (p : Placement) : Bool :=
  p.account?.isSome && p.region?.isSome

/-! ## Names -/

def label (p : Placement) : String := StackName.label p.id

def name (p : Placement) : String := StackName.ofLabel p.label

def checkName (p : Placement) : Except Failure Unit :=
  if p.label = "" then .error .noStackId
  else if StackName.isTaken p.label then .error (.stackNameTaken p.label)
  else if StackName.isValid p.name then .ok ()
  else .error (.stackName p.name)

/-! ## Environments -/

def isAccountChar (c : Char) : Bool :=
  c.isAlphanum || ['-', '@', '.', '_'].contains c

def isRegionChar (c : Char) : Bool :=
  c.isLower || c.isDigit || c = '-'

/-- An account, a slash and the first character of a region. -/
def startsEnvironment (cs : List Char) : Bool :=
  match cs.takeWhile isAccountChar, cs.dropWhile isAccountChar with
  | _ :: _, '/' :: c :: _ => isRegionChar c
  | _, _ => false

/-- The address of an environment occurs in the text. -/
def holdsEnvironment : List Char → Bool
  | [] => false
  | c :: cs =>
    (Text.dropStart? "aws://".toList (c :: cs)).any startsEnvironment || holdsEnvironment cs

def checkEnvironment (p : Placement) : Except Failure Unit :=
  let account := p.account?.getD "unknown-account"
  let region := p.region?.getD "unknown-region"
  if holdsEnvironment ("aws://" ++ account ++ "/" ++ region).toList then .ok ()
  else .error (.environment account region)

end Placement
end EnclaveFleet
