/-!
# Sets of code points given by their edges

A set that consists of few runs is written as the increasing list of the code points at which
membership changes: the first edge opens the first run, the second closes it, and so on.

* `inRuns`: membership
-/
namespace EnclaveFleet.Text
set_option autoImplicit false

def inRuns : List Nat → Nat → Bool
  | [], _ => false
  | e :: es, n => if n < e then false else !inRuns es n

end EnclaveFleet.Text
