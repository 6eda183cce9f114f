import EnclaveFleet.Text.Split

/-!
# Instance types

* `InstanceType`: a family and a size
* `InstanceType.supportsEnclaves`: a coarse test whether a type can hold a Nitro enclave, without
  asking the provider
-/
namespace EnclaveFleet
set_option autoImplicit false

structure InstanceType where
  family : String
  size : String
deriving DecidableEq

namespace InstanceType

/-- The family stands before the first point and the size after it; neither is empty. -/
def parse? (s : String) : Option InstanceType :=
  match s.toList.dropWhile (· ≠ '.') with
  | [] => none
  | _ :: size =>
    let family := s.toList.takeWhile (· ≠ '.')
    if family.isEmpty || size.isEmpty then none
    else some ⟨String.ofList family, String.ofList size⟩

/-- Burstable families, the first Graviton generation and those before Nitro. -/
def familiesWithout : List String := [
  "t1", "t2", "t3", "t3a", "t4g", "a1", "m1", "m2", "m3", "m4", "c1", "c3", "c4", "cc2", "cr1",
  "r3", "r4", "i2", "i3", "hs1", "d2", "h1", "x1", "x1e", "p2", "p3", "g2", "g3", "g3s", "f1"
]

/-- Sizes with fewer than four processors. -/
def sizesWithout : List String := ["nano", "micro", "small", "medium", "large"]

def canHoldEnclaves (t : InstanceType) : Bool :=
  !familiesWithout.contains t.family && !"mac".toList.isPrefixOf t.family.toList &&
    !sizesWithout.contains t.size

def supportsEnclaves (s : String) : Bool :=
  (parse? s).any canHoldEnclaves

end InstanceType
end EnclaveFleet
