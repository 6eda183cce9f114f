import EnclaveFleet.Bytes.Md5
import EnclaveFleet.Text.Encoding

/-!
# Names of stacks

* `StackName.label`: the id of a stack as a part of paths
* `StackName.isTaken`: labels that nothing can be declared under
* `StackName.ofLabel`: the name of a stack; where the label is too long, its letters and digits, and
  where these are too long too, the start, the end and a digest
* `StackName.isValid`: what a stack can be named
-/
namespace EnclaveFleet.StackName
set_option autoImplicit false

/-! ## Labels -/

/-- A slash or a line break would end a part of a path. -/
def labelChars (cs : List Char) : List Char :=
  cs.flatMap fun c => if c = '/' ∨ c = '\n' then ['-', '-'] else [c]

def label (id : String) : String := String.ofList (labelChars id.toList)

/-- These mean something in every scope before anything is declared. -/
def takenLabels : List String := [
  "constructor", "hasOwnProperty", "isPrototypeOf", "propertyIsEnumerable", "toLocaleString",
  "toString", "valueOf", "__defineGetter__", "__defineSetter__", "__lookupGetter__",
  "__lookupSetter__", "__proto__"]

def isTaken (label : String) : Bool := takenLabels.contains label

/-! ## Names -/

def maxUnits : Nat := 128

/-- The digits of the digest that a shortened name ends in. -/
def digestDigits : Nat := 8

def plainChars (cs : List Char) : List Char := cs.filter Char.isAlphanum

def digest (label : String) : List Char :=
  ((Md5.digest label.points.wellFormed.utf8Bytes).flatMap fun b =>
    (Text.hexDigits 2 b.toNat).map Char.toUpper).take digestDigits

theorem length_digest (label : String) : (digest label).length = digestDigits := by
  rw [digest, List.length_take, List.length_flatMap]
  simp only [List.length_map, Text.length_hexDigits, List.map_const', List.sum_replicate_nat,
    Md5.length_digest]
  rfl

/-- The start and the end of a long text, of the same length. -/
def ends (count : Nat) (cs : List Char) : List Char :=
  cs.take (count / 2) ++ cs.drop (cs.length - count / 2)

def shortened (label : String) : String :=
  let plain := plainChars label.toList
  String.ofList (if plain.length ≤ maxUnits then plain
    else ends (maxUnits - digestDigits) plain ++ digest label)

def ofLabel (label : String) : String :=
  if label.units16 ≤ maxUnits then label else shortened label

/-- A letter, then letters, digits and hyphens. -/
def isValid (name : String) : Bool :=
  match name.toList with
  | [] => false
  | c :: cs => c.isAlpha && cs.all fun c => c.isAlphanum || c = '-'

end EnclaveFleet.StackName
