import EnclaveFleet.Text.Runs
import EnclaveFleet.Text.CaseMap.Table

/-!
# Upper and lower case

The full mappings: one character may become several, and a capital sigma becomes the final form at
the end of a word.

* `upperChar`, `lowerChar`: the mapping of one character on its own
* `upper`, `lower`: the mappings of a text
* `upper_of_ascii`: in ASCII each character becomes one
-/
namespace EnclaveFleet.Text
set_option autoImplicit false

namespace CaseMap

/-- The characters for a code point: an expansion, else a shift, else the character itself. -/
def mapPoint (expansions : List (Nat × List Nat)) (shifts : List Shift) (c : Char) : List Char :=
  match expansions.lookup c.toNat with
  | some ns => ns.map Char.ofNat
  | none => [((shifts.findSome? (·.image? c.toNat)).map Char.ofNat).getD c]

def isCased (c : Char) : Bool := inRuns casedEdges c.toNat

def isIgnorable (c : Char) : Bool := inRuns ignorableEdges c.toNat

/-- The first character that is not skipped has case. -/
def meetsCased (cs : List Char) : Bool :=
  match cs.dropWhile isIgnorable with
  | [] => false
  | c :: _ => isCased c

end CaseMap

open CaseMap

def upperChar (c : Char) : List Char :=
  if c.toNat < 0x80 then [c.toUpper] else mapPoint upperExpansions upperShifts c

def upper (cs : List Char) : List Char :=
  cs.flatMap upperChar

theorem upper_of_ascii (cs : List Char) (h : ∀ c ∈ cs, c.toNat < 0x80) :
    upper cs = cs.map Char.toUpper := by
  induction cs with
  | nil => rfl
  | cons c cs ih =>
    obtain ⟨hc, hcs⟩ := List.forall_mem_cons.mp h
    simpa [upper, upperChar, hc] using ih hcs

def lowerChar (c : Char) : List Char :=
  if c.toNat < 0x80 then [c.toLower] else mapPoint lowerExpansions lowerShifts c

/-- The lower case of a text that follows `before`, read backwards. -/
def lowerAfter (before : List Char) : List Char → List Char
  | [] => []
  | c :: rest =>
    let mapped :=
      if c = 'Σ' then [if meetsCased before && !meetsCased rest then 'ς' else 'σ']
      else lowerChar c
    mapped ++ lowerAfter (c :: before) rest

def lower (cs : List Char) : List Char :=
  lowerAfter [] cs

end EnclaveFleet.Text

namespace String

def upperCase (s : String) : String :=
  ofList (EnclaveFleet.Text.upper s.toList)

def lowerCase (s : String) : String :=
  ofList (EnclaveFleet.Text.lower s.toList)

end String
