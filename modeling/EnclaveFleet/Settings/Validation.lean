import EnclaveFleet.InstanceType
import EnclaveFleet.Settings.Problem

/-!
# Validating settings

* `Settings.problems`: everything wrong with the settings, in a fixed order
* `VariableName`: the texts that can name a shell variable

The only failure of its own is a path that the file system cannot be asked about.
-/
namespace EnclaveFleet
set_option autoImplicit false

namespace VariableName

def isStart (c : Char) : Bool := c.isAlpha || c = '_'

def isRest (c : Char) : Bool := c.isAlphanum || c = '_'

/-- A letter or underscore, then letters, digits and underscores, all of ASCII. -/
def accepts : List Char → Bool
  | [] => false
  | c :: cs => isStart c && cs.all isRest

end VariableName

namespace Settings

def keyProblems (s : Settings) : List Problem :=
  (s.secretKeys.filter fun key => !VariableName.accepts key.toList).map .secretKey

/-- One problem if the condition holds. -/
def problemIf (condition : Bool) (p : Problem) : List Problem :=
  if condition then [p] else []

/-- The problems that need no look at the files. -/
def fieldProblems (s : Settings) : List Problem :=
  s.notes.map .noted ++
  problemIf (!InstanceType.supportsEnclaves s.instanceType) (.instanceType s.instanceType) ++
  problemIf (s.fleetSize < 1) (.fleetSize s.fleetSize) ++
  problemIf (!(1 ≤ s.listenerPort && s.listenerPort ≤ 65535)) (.listenerPort s.listenerPort) ++
  problemIf (s.natGateways < 0) (.natGateways s.natGateways) ++
  problemIf (s.secretName == "") .noSecretName ++
  problemIf s.secretKeys.isEmpty .noSecretKeys ++
  s.keyProblems

def bootProblems (s : Settings) (files : Tree) : Except FileFault (List Problem) :=
  match s.mode? with
  | none => .ok [.bootMode s.bootMode]
  | some .inline => .ok []
  | some .script =>
    match s.bootScript.isFile files with
    | .error e => .error e
    | .ok found => .ok (problemIf (!found) (.scriptMissing s.bootScript))

def problems (s : Settings) (files : Tree) : Except FileFault (List Problem) :=
  (s.bootProblems files).map (s.fieldProblems ++ ·)

end Settings
end EnclaveFleet
