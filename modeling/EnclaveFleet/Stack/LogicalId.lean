import EnclaveFleet.Stack.Name

/-!
# Ids of what a stack declares

What a stack declares stands at a path of labels below the stack, and the path gives the id: first
the letters and digits of the labels, for the reader, then the start of a digest of the whole path.
A single label is an id by itself.

* `LogicalId.dropEchoes`: the labels that do not repeat the one before
* `LogicalId.shown`: the letters and digits of a path
* `LogicalId.ofPath`: the id at a path
-/
namespace EnclaveFleet.LogicalId
set_option autoImplicit false

open StackName (plainChars digest)

/-- A label that leaves no trace in an id. -/
def idleLabel : String := "Default"

/-- A label that counts for the digest and is not shown. -/
def hiddenLabel : String := "Resource"

/-- A label is left out where the last one that was kept ends in it. -/
def dropEchoes (last : Option String) : List String → List String
  | [] => []
  | label :: rest =>
    if last.any fun kept => label.toList.isSuffixOf kept.toList then dropEchoes last rest
    else label :: dropEchoes (some label) rest

def maxShown : Nat := 240

def maxSingle : Nat := 255

def shown (labels : List String) : List Char :=
  (((dropEchoes none labels).filter (· ≠ hiddenLabel)).flatMap
    fun label => plainChars label.toList).take maxShown

/-- What a single label gives, unless it is too long. -/
def single? : List String → Option (List Char)
  | [label] => some (plainChars label.toList) |>.filter fun cs => cs.length ≤ maxSingle
  | _ => none

def ofPath (path : List String) : String :=
  let labels := path.filter (· ≠ idleLabel)
  String.ofList ((single? labels).getD (shown labels ++ digest ("/".intercalate labels)))

end EnclaveFleet.LogicalId
