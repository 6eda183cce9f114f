/-!
# The MD5 digest

* `Md5.State.absorb`: one block of sixteen words goes into the state of four words
* `Md5.digest`: the bytes for a list of bytes
* `Md5.length_digest`: there are sixteen of them

Words are read and written with the low byte first.
-/
namespace EnclaveFleet.Md5
set_option autoImplicit false

/-! ## Words and bytes -/

def littleEndian : Nat → Nat → List UInt8
  | 0, _ => []
  | count + 1, n => UInt8.ofNat n :: littleEndian count (n / 0x100)

theorem length_littleEndian (count n : Nat) : (littleEndian count n).length = count := by
  induction count generalizing n with
  | zero => rfl
  | succ count ih => simp [littleEndian, ih]

def word (a b c d : UInt8) : UInt32 :=
  a.toUInt32 ||| b.toUInt32 <<< 8 ||| c.toUInt32 <<< 16 ||| d.toUInt32 <<< 24

def words : List UInt8 → List UInt32
  | a :: b :: c :: d :: rest => word a b c d :: words rest
  | _ => []

/-! ## Padding -/

def blockBytes : Nat := 64

/-- A set bit, zeros, and the length in bits as eight bytes. -/
def padding (length : Nat) : List UInt8 :=
  0x80 :: (List.replicate ((119 - length % blockBytes) % blockBytes) 0 ++
    littleEndian 8 (8 * length))

/-! ## Rounds -/

structure State where
  a : UInt32
  b : UInt32
  c : UInt32
  d : UInt32

def State.start : State := ⟨0x67452301, 0xEFCDAB89, 0x98BADCFE, 0x10325476⟩

inductive Round where
  | first
  | second
  | third
  | fourth

namespace Round

def mix (r : Round) (x y z : UInt32) : UInt32 :=
  match r with
  | .first => (x &&& y) ||| (~~~x &&& z)
  | .second => (x &&& z) ||| (y &&& ~~~z)
  | .third => x ^^^ y ^^^ z
  | .fourth => y ^^^ (x ||| ~~~z)

/-- The word of the block that a step takes. -/
def position (r : Round) (step : Nat) : Nat :=
  match r with
  | .first => step
  | .second => (5 * step + 1) % 16
  | .third => (3 * step + 5) % 16
  | .fourth => 7 * step % 16

/-- How far the sum is turned; the amounts repeat every four steps. -/
def turns : Round → List UInt32
  | .first => [7, 12, 17, 22]
  | .second => [5, 9, 14, 20]
  | .third => [4, 11, 16, 23]
  | .fourth => [6, 10, 15, 21]

/-- The integer part of 2^32 times the sine of 1, 2, 3 and so on, without its sign. -/
def sines : Round → List UInt32
  | .first => [
      0xd76aa478, 0xe8c7b756, 0x242070db, 0xc1bdceee, 0xf57c0faf, 0x4787c62a, 0xa8304613,
      0xfd469501, 0x698098d8, 0x8b44f7af, 0xffff5bb1, 0x895cd7be, 0x6b901122, 0xfd987193,
      0xa679438e, 0x49b40821]
  | .second => [
      0xf61e2562, 0xc040b340, 0x265e5a51, 0xe9b6c7aa, 0xd62f105d, 0x02441453, 0xd8a1e681,
      0xe7d3fbc8, 0x21e1cde6, 0xc33707d6, 0xf4d50d87, 0x455a14ed, 0xa9e3e905, 0xfcefa3f8,
      0x676f02d9, 0x8d2a4c8a]
  | .third => [
      0xfffa3942, 0x8771f681, 0x6d9d6122, 0xfde5380c, 0xa4beea44, 0x4bdecfa9, 0xf6bb4b60,
      0xbebfbc70, 0x289b7ec6, 0xeaa127fa, 0xd4ef3085, 0x04881d05, 0xd9d4d039, 0xe6db99e5,
      0x1fa27cf8, 0xc4ac5665]
  | .fourth => [
      0xf4292244, 0x432aff97, 0xab9423a7, 0xfc93a039, 0x655b59c3, 0x8f0ccc92, 0xffeff47d,
      0x85845dd1, 0x6fa87e4f, 0xfe2ce6e0, 0xa3014314, 0x4e0811a1, 0xf7537e82, 0xbd3af235,
      0x2ad7d2bb, 0xeb86d391]

end Round

def turnLeft (x amount : UInt32) : UInt32 :=
  x <<< amount ||| x >>> (32 - amount)

def State.step (block : List UInt32) (r : Round) (s : State) (step : UInt32 × Nat) : State :=
  let sum := s.a + r.mix s.b s.c s.d + step.1 + block.getD (r.position step.2) 0
  ⟨s.d, s.b + turnLeft sum (r.turns.getD (step.2 % 4) 0), s.b, s.c⟩

def State.round (block : List UInt32) (s : State) (r : Round) : State :=
  r.sines.zipIdx.foldl (State.step block r) s

def State.absorb (s : State) (block : List UInt32) : State :=
  let t := [Round.first, .second, .third, .fourth].foldl (State.round block) s
  ⟨s.a + t.a, s.b + t.b, s.c + t.c, s.d + t.d⟩

/-! ## The digest -/

/-- Absorbs so many blocks of a list of words. -/
def State.absorbAll (s : State) : Nat → List UInt32 → State
  | 0, _ => s
  | count + 1, ws => (s.absorb (ws.take 16)).absorbAll count (ws.drop 16)

def digest (bytes : List UInt8) : List UInt8 :=
  let padded := bytes ++ padding bytes.length
  let s := State.start.absorbAll (padded.length / blockBytes) (words padded)
  [s.a, s.b, s.c, s.d].flatMap fun w => littleEndian 4 w.toNat

theorem length_digest (bytes : List UInt8) : (digest bytes).length = 16 := by
  simp [digest, length_littleEndian]

end EnclaveFleet.Md5
