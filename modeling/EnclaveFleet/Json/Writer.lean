import EnclaveFleet.Json.Basic
import EnclaveFleet.Text.Quoted

/-!
# Writing JSON

* `Json.render`: a value on one line, without blanks; strings keep every character that needs no
  escape, and surrogates are written as escapes
-/
namespace EnclaveFleet.Json
set_option autoImplicit false

def renderPoint (n : Nat) : List Char :=
  if n = 0x22 then ['\\', '"']
  else if n = 0x5C then ['\\', '\\']
  else if n < 0x20 || Points.isSurrogate n then '\\' :: 'u' :: Text.hexDigits 4 n
  else [Char.ofNat n]

def renderText (s : String) : List Char :=
  '"' :: (s.points.flatMap renderPoint ++ ['"'])

def renderReal : Real → List Char
  | .decimal negative mantissa exponent =>
    ((if negative then "-" else "") ++ toString mantissa ++ "e" ++ toString exponent).toList
  | .infinite negative => if negative then "-Infinity".toList else "Infinity".toList
  | .nan => "NaN".toList

mutual

def renderChars : Json → List Char
  | .null => "null".toList
  | .bool b => if b then "true".toList else "false".toList
  | .int n => (toString n).toList
  | .real r => renderReal r
  | .text s => renderText s
  | .array items => '[' :: (renderItems items ++ [']'])
  | .object fields => '{' :: (renderFields fields ++ ['}'])

def renderItems : List Json → List Char
  | [] => []
  | [j] => renderChars j
  | j :: js => renderChars j ++ ',' :: renderItems js

def renderFields : List (String × Json) → List Char
  | [] => []
  | [(name, j)] => renderText name ++ ':' :: renderChars j
  | (name, j) :: fields => renderText name ++ ':' :: (renderChars j ++ ',' :: renderFields fields)

end

def render (j : Json) : String :=
  String.ofList (renderChars j)

end EnclaveFleet.Json
