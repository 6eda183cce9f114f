import EnclaveFleet.Deferred
import EnclaveFleet.Text.Split

/-!
# Markers

A marker in a text asks for a value that was put aside under a key while a template was declared;
another kind of marker asks for a list. A number that was put aside is marked by a number far below
all others, which is its own key. No text of a template is made of markers, so one that holds them
cannot be completed.

* `Marker.keyAt?`, `Marker.firstKey?`: the key of a marker at the start of a text, and of the first
  one in it
* `MarkerFault`, `Deferred.markerFault?`: why a text cannot be completed
-/
namespace EnclaveFleet
set_option autoImplicit false

namespace Marker

inductive Form where
  | value
  | list
deriving DecidableEq

def Form.opening : Form → List Char
  | .value => "$\x7bToken[".toList
  | .list => "#\x7bToken[".toList

def closing : List Char := "]\x7d".toList

def isKeyChar (c : Char) : Bool :=
  c.isAlphanum || [':', '.', '_', '-'].contains c

def namedKeyAt? (form : Form) (cs : List Char) : Option (List Char) := do
  let rest ← Text.dropStart? form.opening cs
  let key := rest.takeWhile isKeyChar
  if key.isEmpty || !closing.isPrefixOf (rest.dropWhile isKeyChar) then none else some key

/-! A number has ten to sixteen decimals. -/

def numberOpening : List Char := "-1.".toList

def numberClosing : List Char := "e+289".toList

def minDecimals : Nat := 10

def maxDecimals : Nat := 16

def numberKeyAt? (cs : List Char) : Option (List Char) := do
  let rest ← Text.dropStart? numberOpening cs
  let decimals := rest.takeWhile Char.isDigit
  if minDecimals ≤ decimals.length ∧ decimals.length ≤ maxDecimals ∧
    numberClosing.isPrefixOf (rest.dropWhile Char.isDigit) then
    some (numberOpening ++ decimals ++ numberClosing)
  else none

def keyAt? (form : Form) (cs : List Char) : Option (List Char) :=
  match form with
  | .list => namedKeyAt? .list cs
  | .value => (namedKeyAt? .value cs).or (numberKeyAt? cs)

def firstKey? (form : Form) : List Char → Option (List Char)
  | [] => none
  | c :: cs =>
    match keyAt? form (c :: cs) with
    | some key => some key
    | none => firstKey? form cs

end Marker

inductive MarkerFault where
  /-- A list where a text is to be. -/
  | list
  /-- Nothing was put aside under the key. -/
  | unknownKey (key : String)
deriving DecidableEq

namespace MarkerFault

def name : MarkerFault → String
  | .list => "EncodedListTokenInScalarContext"
  | .unknownKey _ => "UnrecognizedTokenKey"

def reason : MarkerFault → String
  | .list => "Found an encoded list token string in a scalar string context. " ++
    "Use 'Fn.select(0, list)' (not 'list[0]') to extract elements from token lists."
  | .unknownKey key => "Unrecognized token key: " ++ key

end MarkerFault

namespace Deferred

/-- The literals of a text, where neighbours count as one. -/
def literals (d : Deferred) : List (List Char) :=
  d.normal.filterMap fun
    | .literal s => some s.toList
    | .parameter _ => none

def markerKey? (d : Deferred) (form : Marker.Form) : Option (List Char) :=
  d.literals.findSome? (Marker.firstKey? form)

/-- Lists are looked for in the whole text before any key is. -/
def markerFault? (d : Deferred) : Option MarkerFault :=
  if (d.markerKey? .list).isSome then some .list
  else (d.markerKey? .value).map fun key => .unknownKey (String.ofList key)

end Deferred
end EnclaveFleet
