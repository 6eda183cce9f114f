/-!
# Numbers of double precision

A positive number of double precision is `mantissa * 2 ^ exponent` with a mantissa below `2 ^ 53`
and an exponent from -1074 on.

* `Double.nearest`: the number nearest to a fraction, of two the one with the even mantissa
* `Double.shortest`: the fewest decimal digits from which `nearest` gives the number again
-/
namespace EnclaveFleet
set_option autoImplicit false

structure Double where
  mantissa : Nat
  exponent : Int
deriving DecidableEq

/-- Digits and the place of the point: `0.d₁d₂d₃… * 10 ^ point`. -/
structure Digits where
  digits : List Nat
  point : Int
deriving DecidableEq

namespace Double

/-- A fraction times a power of a base. -/
def scale (base : Nat) (num den : Nat) (power : Int) : Nat × Nat :=
  match power with
  | .ofNat n => (num * base.pow n, den)
  | .negSucc n => (num, den * base.pow (n + 1))

/-- The nearest natural number, of two the even one. -/
def roundEven (num den : Nat) : Nat :=
  let q := num / den
  let r := num % den
  if 2 * r < den then q
  else if den < 2 * r then q + 1
  else q + q % 2

/-- The largest power of two that the fraction reaches. -/
def floorLog2 (num den : Nat) : Int :=
  let guess : Int := (num.log2 : Int) - den.log2
  let (n, d) := scale 2 num den (-guess)
  if d ≤ n then guess else guess - 1

/-- No number for what lies beyond the largest one. Zero has the mantissa zero. -/
def nearest (num den : Nat) : Option Double :=
  if num = 0 then some ⟨0, -1074⟩
  else
    let q := max (floorLog2 num den - 52) (-1074)
    let (n, d) := scale 2 num den (-q)
    let m := roundEven n d
    let x : Double := if m = Nat.pow 2 53 then ⟨Nat.pow 2 52, q + 1⟩ else ⟨m, q⟩
    if 971 < x.exponent then none else some x

/-- The value as a fraction. -/
def fraction (x : Double) : Nat × Nat :=
  scale 2 x.mantissa 1 x.exponent

/-- A decimal reads back as the number. -/
def isReadFrom (x : Double) (digits : Nat) (power : Int) : Bool :=
  let (n, d) := scale 10 digits 1 power
  nearest n d = some x

/-- The place of the point of a fraction: it lies below `10 ^ point` and not below a tenth of it. -/
def decimalPoint (num den : Nat) : Int :=
  let guess : Int := ((num.log2 : Int) - den.log2) * 30103 / 100000
  let candidates := [guess - 1, guess, guess + 1, guess + 2]
  (candidates.find? fun p => let (n, d) := scale 10 num den (-p); n < d).getD (guess + 3)

/-- The neighbour on the grid of `count` digits that reads back: the nearer one of two, the even
one where both are as near. -/
def onGrid (x : Double) (point : Int) (count : Nat) : Option Nat :=
  let (num, den) := x.fraction
  let power := point - count
  let (n, d) := scale 10 num den (-power)
  let low := n / d
  let near := if roundEven n d = low then [low, low + 1] else [low + 1, low]
  near.find? fun digits => 0 < digits && x.isReadFrom digits power

def decimalDigits (n : Nat) : List Nat :=
  (Nat.toDigits 10 n).map fun c => c.toNat - '0'.toNat

def dropZeros (ds : List Nat) : List Nat :=
  (ds.reverse.dropWhile (· = 0)).reverse

/-- Seventeen digits always suffice. -/
def shortest (x : Double) : Digits :=
  let (num, den) := x.fraction
  let point := decimalPoint num den
  match (List.range 17).findSome? fun k => (onGrid x point (k + 1)).map fun n => (k + 1, n) with
  | none => ⟨[0], 0⟩
  | some (count, n) =>
    let ds := decimalDigits n
    ⟨dropZeros ds, point + (ds.length - count)⟩

end Double
end EnclaveFleet
