import EnclaveFleet.Bootstrap.Shipped
import EnclaveFleet.Files.Tree

/-!
# Where the bootstrap script comes from

* `BootScript`: the script that comes with the fleet, or a file
* `BootScript.read`, `BootScript.isFile`: its content and whether it is there
-/
namespace EnclaveFleet
set_option autoImplicit false

inductive BootScript where
  | shipped
  | file (p : Path)
deriving DecidableEq

namespace BootScript

/-- The place of the shipped script; `<package>` stands for the directory of the installation. -/
def text : BootScript → String
  | .shipped => "<package>/scripts/bootstrap-host.sh"
  | .file p => p.text

def hasNul : BootScript → Bool
  | .shipped => false
  | .file p => p.hasNul

/-- What keeps the place from being looked at. -/
def pathFault? : BootScript → Option EncodingFault
  | .shipped => none
  | .file p => p.text.pathFault?

def read (files : Tree) : BootScript → Except ReadFault (List UInt8)
  | .shipped => .ok Bootstrap.shippedScript
  | .file p => files.read p

def isFile (files : Tree) : BootScript → Except FileFault Bool
  | .shipped => .ok true
  | .file p => files.isFile p

end BootScript
end EnclaveFleet
