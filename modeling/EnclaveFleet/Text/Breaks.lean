import EnclaveFleet.Text.Quoted

/-!
# Texts on a console

* `Text.plainBreaks`: a carriage return before a line feed is dropped
* `Text.escapeSurrogates`: a surrogate is written as an escape
-/
namespace EnclaveFleet.Text
set_option autoImplicit false

def plainBreaks : List Char → List Char
  | '\r' :: '\n' :: cs => '\n' :: plainBreaks cs
  | c :: cs => c :: plainBreaks cs
  | [] => []

def escapeSurrogates (ps : Points) : Points :=
  ps.flatMap fun n =>
    if Points.isSurrogate n then (escapePoint n).map Char.toNat else [n]

end EnclaveFleet.Text

namespace String

def plainBreaks (s : String) : String :=
  ofList (EnclaveFleet.Text.plainBreaks s.toList)

def escapeSurrogates (s : String) : String :=
  ofPoints (EnclaveFleet.Text.escapeSurrogates s.points)

end String
