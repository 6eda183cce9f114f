import EnclaveFleet.Text.Points

/-!
# Units of 16 bits

A code point beyond U+FFFF is two units, a high and a low surrogate. Two surrogates that stand next
to each other in that order become one code point in this way.

* `toUnits`, `ofUnits`: the units of a text and the text of units
* `takeUnits`: a text cut off after so many units
* `String.units16`: the length of a text in units
-/
namespace EnclaveFleet.Points
set_option autoImplicit false

def pointUnits (n : Nat) : List Nat :=
  if n < 0x10000 then [n]
  else [0xD800 + (n - 0x10000) / 0x400, 0xDC00 + (n - 0x10000) % 0x400]

def toUnits (ps : Points) : List Nat := ps.flatMap pointUnits

def joinPair (high low : Nat) : Nat :=
  0x10000 + (high - 0xD800) * 0x400 + (low - 0xDC00)

def ofUnits : List Nat → Points
  | [] => []
  | [u] => [u]
  | u :: v :: us =>
    if isHigh u && isLow v then joinPair u v :: ofUnits us else u :: ofUnits (v :: us)

/-- Neighbouring surrogates that make one code point are joined. -/
def paired (ps : Points) : Points := ofUnits (toUnits ps)

def takeUnits (count : Nat) (ps : Points) : Points := ofUnits ((toUnits ps).take count)

end EnclaveFleet.Points

def String.units16 (s : String) : Nat := s.points.toUnits.length
