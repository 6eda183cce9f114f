import EnclaveFleet.Number.Double

/-!
# Decimals on paper

* `Layout`: where positional notation ends and how the rest is written
* `Layout.write`: digits in a layout
* `Layout.plain`, `Layout.pointed`: the layouts that templates and messages use
-/
namespace EnclaveFleet
set_option autoImplicit false

structure Layout where
  /-- Positional while the point lies above this place. -/
  above : Int
  /-- Positional while the point lies at this place or before it. -/
  upTo : Int
  /-- Whole numbers keep a point and a zero. -/
  keepsPoint : Bool
  exponentWidth : Nat

namespace Layout

/-- Whole numbers stand without a point, up to 21 digits. -/
def plain : Layout := ⟨-6, 21, false, 1⟩

/-- Whole numbers keep their point, up to 16 digits; an exponent has two digits at least. -/
def pointed : Layout := ⟨-4, 16, true, 2⟩

def digitText (ds : List Nat) : String :=
  String.join (ds.map toString)

def zeros (n : Int) : String :=
  String.ofList (List.replicate n.toNat '0')

def exponentText (l : Layout) (e : Int) : String :=
  let digits := toString e.natAbs
  (if e < 0 then "-" else "+") ++ zeros (l.exponentWidth - digits.length) ++ digits

def write (l : Layout) (x : Digits) : String :=
  let count : Int := x.digits.length
  if l.above < x.point ∧ x.point ≤ l.upTo then
    if x.point ≤ 0 then "0." ++ zeros (-x.point) ++ digitText x.digits
    else if x.point < count then
      digitText (x.digits.take x.point.toNat) ++ "." ++ digitText (x.digits.drop x.point.toNat)
    else digitText x.digits ++ zeros (x.point - count) ++ (if l.keepsPoint then ".0" else "")
  else
    let rest := x.digits.drop 1
    digitText (x.digits.take 1) ++ (if rest.isEmpty then "" else "." ++ digitText rest) ++ "e" ++
      l.exponentText (x.point - 1)

end Layout
end EnclaveFleet
