import EnclaveFleet.Json.Basic
import EnclaveFleet.Number.Layout
import EnclaveFleet.Text.Quoted

/-!
# JSON values in messages

* `Json.typeName`: what a message calls the kind of a value
* `Json.display`: a value inside a message; a string stands as it is, but between quotes inside
  another value
-/
namespace EnclaveFleet.Json
set_option autoImplicit false

def typeName : Json → String
  | .null => "NoneType"
  | .bool _ => "bool"
  | .int _ => "int"
  | .real _ => "float"
  | .text _ => "str"
  | .array _ => "list"
  | .object _ => "dict"

def displayReal : Real → String
  | .nan => "nan"
  | .infinite negative => if negative then "-inf" else "inf"
  | .decimal negative mantissa exponent =>
    let sign := if negative then "-" else ""
    if Real.underflows mantissa exponent then sign ++ "0.0"
    else
      let (num, den) := Double.scale 10 mantissa 1 exponent
      match Double.nearest num den with
      | none => sign ++ "inf"
      | some x => sign ++ Layout.pointed.write x.shortest

/-- Repeated names are one field, at the first place with the last value. -/
def distinctFields (fields : List (String × String)) : List (String × String) :=
  fields.foldl (fun seen (name, value) =>
    if seen.any (·.1 = name) then seen.map fun f => if f.1 = name then (name, value) else f
    else seen ++ [(name, value)]) []

mutual

def quotedDisplay : Json → String
  | .null => "None"
  | .bool b => if b then "True" else "False"
  | .int n => toString n
  | .real r => displayReal r
  | .text s => s.quotedText
  | .array items => "[" ++ ", ".intercalate (itemDisplays items) ++ "]"
  | .object fields =>
    let texts := (distinctFields (fieldDisplays fields)).map fun (name, value) =>
      name.quotedText ++ ": " ++ value
    "\x7b" ++ ", ".intercalate texts ++ "\x7d"

def itemDisplays : List Json → List String
  | [] => []
  | j :: js => quotedDisplay j :: itemDisplays js

def fieldDisplays : List (String × Json) → List (String × String)
  | [] => []
  | (name, j) :: fields => (name, quotedDisplay j) :: fieldDisplays fields

end

def display : Json → String
  | .text s => s
  | j => quotedDisplay j

end EnclaveFleet.Json
