/-!
# Code points of texts

The texts of environments and documents can hold surrogates, which are code points and no
characters. A string writes a surrogate as a mark and a character in its stead, and writes the mark
itself twice.

* `Points`: the code points of a text
* `String.ofPoints`, `String.points`: the string that writes a text, and the text of a string
-/
namespace EnclaveFleet
set_option autoImplicit false

abbrev Points := List Nat

namespace Points

def isHigh (n : Nat) : Bool := 0xD800 ≤ n && n < 0xDC00

def isLow (n : Nat) : Bool := 0xDC00 ≤ n && n < 0xE000

def isSurrogate (n : Nat) : Bool := 0xD800 ≤ n && n < 0xE000

/-- The last of all code points. -/
def mark : Char := Char.ofNat 0x10FFFF

/-- The characters in the stead of surrogates are as many places further on. -/
def shift : Nat := 0x800

def pointChars (n : Nat) : List Char :=
  if isSurrogate n then [mark, Char.ofNat (n + shift)]
  else if Char.ofNat n = mark then [mark, mark]
  else [Char.ofNat n]

def toChars (ps : Points) : List Char := ps.flatMap pointChars

/-- A mark in front of any other character stands for itself. -/
def ofChars : List Char → Points
  | [] => []
  | [c] => [c.toNat]
  | c :: d :: cs =>
    if c = mark ∧ d = mark then c.toNat :: ofChars cs
    else if c = mark ∧ isSurrogate (d.toNat - shift) then (d.toNat - shift) :: ofChars cs
    else c.toNat :: ofChars (d :: cs)

theorem toNat_ofNat (n : Nat) (h : n.isValidChar) : (Char.ofNat n).toNat = n := by
  rw [Char.ofNat, dif_pos h]
  rfl

end Points
end EnclaveFleet

namespace String

def ofPoints (ps : EnclaveFleet.Points) : String :=
  ofList (EnclaveFleet.Points.toChars ps)

def points (s : String) : EnclaveFleet.Points :=
  EnclaveFleet.Points.ofChars s.toList

end String
