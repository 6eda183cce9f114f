import EnclaveFleet.Template.Basic

/-!
# The texts of a template

* `Template.Value.texts`: the texts in a value, in order
* `Template.texts`: those in the properties of all resources

With each text goes the number of values in which it is wrapped up until the template is written.
-/
namespace EnclaveFleet.Template
set_option autoImplicit false

/-- A text and what it is wrapped up in. -/
structure WrappedText where
  text : Deferred
  wraps : Nat
deriving DecidableEq

/-- An encoded text is a value that a value stands for. -/
def encodingWraps : Nat := 2

namespace Value

mutual

def texts (wraps : Nat) : Value → List WrappedText
  | .text s => [⟨.ofString s, wraps⟩]
  | .deferred d => [⟨d, wraps⟩]
  | .encoded d => [⟨d, wraps + encodingWraps⟩]
  | .list items => listTexts wraps items
  | .record fields => fieldTexts wraps fields
  | .number _ | .flag _ | .ref _ | .attribute _ _ | .zoneAt _ => []

def listTexts (wraps : Nat) : List Value → List WrappedText
  | [] => []
  | v :: vs => v.texts wraps ++ listTexts wraps vs

def fieldTexts (wraps : Nat) : List (String × Value) → List WrappedText
  | [] => []
  | (_, v) :: fields => v.texts wraps ++ fieldTexts wraps fields

end

end Value

/-- The resource and its properties are values that are wrapped up; so are the document of a policy
and the statements in it. -/
def propertyWraps (name : String) : Nat :=
  if name = "PolicyDocument" then 4 else 2

def Resource.texts (r : Resource) : List WrappedText :=
  r.properties.flatMap fun (name, v) => v.texts (propertyWraps name)

def texts (t : Template) : List WrappedText :=
  t.resources.flatMap Resource.texts

end EnclaveFleet.Template
