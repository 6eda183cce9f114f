import EnclaveFleet.Text.Blank

/-!
# Integer numerals

A numeral is an optional sign and decimal digits of any script, with single underscores allowed
between digits and blanks around the whole.

* `digit?`: the value of a decimal digit
* `Numeral.digits?`: the digit values of an unsigned numeral
* `Numeral.parse?`: the integer that a text denotes; more than `Numeral.maxDigits` digits are
  refused
* `Numeral.leadingDigits?`: the digits that are counted before the rest of a text is looked at
-/
namespace EnclaveFleet.Text
set_option autoImplicit false

/-- The zero of each script; its ten digits follow one another (Unicode 14). -/
def scriptZeros : List Nat := [
  0x0030, 0x0660, 0x06F0, 0x07C0, 0x0966, 0x09E6, 0x0A66, 0x0AE6, 0x0B66, 0x0BE6, 0x0C66, 0x0CE6,
  0x0D66, 0x0DE6, 0x0E50, 0x0ED0, 0x0F20, 0x1040, 0x1090, 0x17E0, 0x1810, 0x1946, 0x19D0, 0x1A80,
  0x1A90, 0x1B50, 0x1BB0, 0x1C40, 0x1C50, 0xA620, 0xA8D0, 0xA900, 0xA9D0, 0xA9F0, 0xAA50, 0xABF0,
  0xFF10, 0x104A0, 0x10D30, 0x11066, 0x110F0, 0x11136, 0x111D0, 0x112F0, 0x11450, 0x114D0,
  0x11650, 0x116C0, 0x11730, 0x118E0, 0x11950, 0x11C50, 0x11D50, 0x11DA0, 0x16A60, 0x16AC0,
  0x16B50, 0x1D7CE, 0x1D7D8, 0x1D7E2, 0x1D7EC, 0x1D7F6, 0x1E140, 0x1E2F0, 0x1E950, 0x1FBF0]

def digit? (c : Char) : Option Nat :=
  (scriptZeros.find? fun z => z ≤ c.toNat && c.toNat < z + 10).map (c.toNat - ·)

namespace Numeral

/-- Longer numerals are refused, leading zeros counted and underscores not. -/
def maxDigits : Nat := 4300

/-- A blank that may stand around a numeral: none of the separators U+001C to U+001F. -/
def isPadding (c : Char) : Bool :=
  isBlank c && !(0x1C ≤ c.toNat && c.toNat ≤ 0x1F)

/-- The digits of `d (_? d)*`, in order. -/
def digits? : List Char → Option (List Nat)
  | [] => none
  | [c] => (digit? c).map ([·])
  | c :: '_' :: rest => do return (← digit? c) :: (← digits? rest)
  | c :: d :: rest => do return (← digit? c) :: (← digits? (d :: rest))

def ofDigits (ds : List Nat) : Nat :=
  ds.foldl (fun n d => 10 * n + d) 0

def magnitude? (cs : List Char) : Option Nat := do
  let ds ← digits? cs
  if ds.length ≤ maxDigits then some (ofDigits ds) else none

/-- An optional sign, then the magnitude with nothing between. -/
def signed? : List Char → Option Int
  | '-' :: cs => (magnitude? cs).map fun n => -(n : Int)
  | '+' :: cs => (magnitude? cs).map Int.ofNat
  | cs => (magnitude? cs).map Int.ofNat

/-- The digits that a text begins with behind blanks and a sign, whatever comes after them. -/
def leadingDigits? (cs : List Char) : Option (List Nat) :=
  let leading (cs : List Char) := digits? (cs.takeWhile fun c => c = '_' || (digit? c).isSome)
  match cs.dropWhile isPadding with
  | '-' :: cs | '+' :: cs => leading cs
  | cs => leading cs

def parse? (cs : List Char) : Option Int :=
  signed? (trimWhile isPadding cs)

end Numeral
end EnclaveFleet.Text
