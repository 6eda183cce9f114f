/-!
# JSON values

* `Json`: a value; objects keep every field in the order of the text
* `Json.get?`: the field of an object, the last one of a repeated name
* `Json.isText`: the value is a given text
* `Json.isFilled`: the value is neither absent nor empty nor zero
-/
namespace EnclaveFleet
set_option autoImplicit false

/-- Numbers written with a fraction or an exponent, and the three names that stand for no number
of the kind. A decimal is `mantissa * 10 ^ exponent`, with a sign of its own for zero. -/
inductive Real where
  | decimal (negative : Bool) (mantissa : Nat) (exponent : Int)
  | infinite (negative : Bool)
  | nan
deriving DecidableEq

inductive Json where
  | null
  | bool (b : Bool)
  | int (n : Int)
  | real (r : Real)
  | text (s : String)
  | array (items : List Json)
  | object (fields : List (String × Json))

/-- The decimal is nearer to zero than to every other number of double precision: it is at most
half of the least of them, 2 ^ (-1074). The first comparison avoids the large power where a rough
estimate decides. -/
def Real.underflows (mantissa : Nat) (exponent : Int) : Bool :=
  let places := (-exponent).toNat
  mantissa = 0 || mantissa.log2 + 1076 ≤ 3 * places || mantissa * Nat.pow 2 1075 ≤ Nat.pow 10 places

def Real.isZero : Real → Bool
  | .decimal _ mantissa exponent => underflows mantissa exponent
  | .infinite _ => false
  | .nan => false

namespace Json

def getLast? (name : String) (fields : List (String × Json)) : Option Json :=
  fields.reverse.lookup name

def get? (j : Json) (name : String) : Option Json :=
  match j with
  | .object fields => getLast? name fields
  | _ => none

def isText (j : Json) (s : String) : Bool :=
  match j with
  | .text t => t = s
  | _ => false

/-- Neither null, false, zero nor empty. -/
def isFilled : Json → Bool
  | .null => false
  | .bool b => b
  | .int n => n ≠ 0
  | .real r => !r.isZero
  | .text s => s ≠ ""
  | .array items => !items.isEmpty
  | .object fields => !fields.isEmpty

end Json
end EnclaveFleet
