import EnclaveFleet.Failure
import EnclaveFleet.Settings.Environment

/-!
# The environment of a process

* `Environment.variableFault?`: why a process cannot have a variable
* `Environment.ofProcess`: the environment of a process with the given variables, if it can have
  them all
-/
namespace EnclaveFleet.Environment
set_option autoImplicit false

/-- Both texts must have bytes, none of which is zero. An equals sign ends a name, and a name has at
least one character. -/
def variableFault? (name value : String) : Option Failure :=
  match name.pathFault?.or value.pathFault? with
  | some fault => some (.unencodable fault)
  | none =>
    if (name ++ value).toList.contains '\x00' then some .nulByte
    else if name.toList.contains '=' then some .variableName
    else if name = "" then some .variableUnnamed
    else none

/-- A process has its variables as bytes. -/
def asBytes (vars : List (String × String)) : List (String × String) :=
  vars.map fun (name, value) => (name.decoded, value.decoded)

def ofProcess (vars : List (String × String)) : Except Failure Environment :=
  match vars.findSome? fun v => variableFault? v.1 v.2 with
  | some e => .error e
  | none => .ok (ofList (asBytes vars))

end EnclaveFleet.Environment
