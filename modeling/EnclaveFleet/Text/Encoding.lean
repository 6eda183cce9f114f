import EnclaveFleet.Text.Quoted
import EnclaveFleet.Text.Units

/-!
# Texts as bytes

UTF-8 has no bytes for surrogates. Names of files can hold any bytes all the same: the surrogates
from U+DC80 on stand for the bytes from 0x80 on there.

* `Points.wellFormed`: the text with surrogates joined, or replaced where they stand alone
* `Points.utf8Bytes`: the bytes of a text without surrogates
* `Points.fileBytes`: how many bytes a text is as a name of a file
* `Points.decoded`: the text whose bytes these are, where surrogates that stand for bytes make up
  characters
* `EncodingFault`, `Points.encodingFault?`: the first surrogates that have no bytes
-/
namespace EnclaveFleet
set_option autoImplicit false

namespace Points

/-- The replacement character. -/
def replacement : Nat := 0xFFFD

def wellFormed (ps : Points) : Points :=
  ps.paired.map fun n => if isSurrogate n then replacement else n

def utf8Bytes (ps : Points) : List UInt8 :=
  ps.flatMap fun n => String.utf8EncodeChar (Char.ofNat n)

/-- The surrogates that stand for one byte. -/
def isByte (n : Nat) : Bool := 0xDC80 ≤ n && n < 0xDD00

def pointBytes (n : Nat) : Nat :=
  if n < 0x80 ∨ isByte n then 1
  else if n < 0x800 then 2
  else if n < 0x10000 then 3
  else 4

def fileBytes (ps : Points) : Nat := (ps.map pointBytes).foldr (· + ·) 0

/-! ## Bytes as texts -/

/-- The surrogates for the bytes that go on with a character. -/
def isContinuation (n : Nat) : Bool := 0xDC80 ≤ n && n < 0xDCC0

/-- How many bytes the character is that the surrogate for a first byte begins. -/
def leadBytes (n : Nat) : Nat :=
  if 0xDCC0 ≤ n ∧ n < 0xDCE0 then 2
  else if 0xDCE0 ≤ n ∧ n < 0xDCF0 then 3
  else if 0xDCF0 ≤ n ∧ n < 0xDCF8 then 4
  else 0

/-- The code point that so many bytes at the start of a text make up, in the shortest form. -/
def bytePoint? (count : Nat) (ps : Points) : Option Nat :=
  match ps.take count with
  | [] => none
  | lead :: rest =>
    let point := rest.foldl (fun value n => value * 0x40 + n % 0x40) (lead % Nat.pow 2 (7 - count))
    if rest.all isContinuation ∧ point.isValidChar ∧ pointBytes point = count ∧
      rest.length + 1 = count then some point else none

/-- Goes on behind the bytes of a character. -/
def decodedFrom (behind : Nat) : Points → Points
  | [] => []
  | n :: ps =>
    match behind with
    | behind + 1 => decodedFrom behind ps
    | 0 =>
      match bytePoint? (leadBytes n) (n :: ps) with
      | some point => point :: decodedFrom (leadBytes n - 1) ps
      | none => n :: decodedFrom 0 ps

/-- Names of files and of variables are known by their bytes; where these make up characters, the
characters are meant. -/
def decoded (ps : Points) : Points := decodedFrom 0 ps

end Points

/-! ## Texts without bytes -/

/-- Surrogates next to each other from one that has no bytes on. -/
structure EncodingFault where
  first : Nat
  position : Nat
  length : Nat
deriving DecidableEq

def EncodingFault.message (e : EncodingFault) : String :=
  let place :=
    if e.length = 1 then
      "character '" ++ String.ofList (Text.escapePoint e.first) ++ s!"' in position {e.position}"
    else s!"characters in position {e.position}-{e.position + e.length - 1}"
  "'utf-8' codec can't encode " ++ place ++ ": surrogates not allowed"

namespace Points

def encodingFaultFrom (position : Nat) (hasByte : Nat → Bool) : Points → Option EncodingFault
  | [] => none
  | n :: ps =>
    if isSurrogate n && !hasByte n then
      some ⟨n, position, (ps.takeWhile isSurrogate).length + 1⟩
    else encodingFaultFrom (position + 1) hasByte ps

/-- The first surrogates that are not among those that have a byte. -/
def encodingFault? (hasByte : Nat → Bool) (ps : Points) : Option EncodingFault :=
  encodingFaultFrom 0 hasByte ps

theorem encodingFaultFrom_eq_none_iff (position : Nat) (hasByte : Nat → Bool) (ps : Points) :
    encodingFaultFrom position hasByte ps = none ↔
      ∀ n ∈ ps, isSurrogate n → hasByte n := by
  induction ps generalizing position with
  | nil => simp [encodingFaultFrom]
  | cons n ps ih =>
    rw [encodingFaultFrom]
    by_cases hs : isSurrogate n <;> by_cases hb : hasByte n <;> simp [hs, hb, ih]

end Points
end EnclaveFleet

namespace String

def wellFormed (s : String) : String := ofPoints s.points.wellFormed

/-- Neighbouring surrogates that make one code point are joined. -/
def paired (s : String) : String := ofPoints s.points.paired

def fileBytes (s : String) : Nat := s.points.fileBytes

/-- The text with characters in the stead of the surrogates for their bytes. -/
def decoded (s : String) : String := ofPoints s.points.decoded

/-- What keeps the text from being shown. -/
def showFault? (s : String) : Option EnclaveFleet.EncodingFault :=
  s.points.encodingFault? fun _ => false

/-- What keeps the text from being a path. -/
def pathFault? (s : String) : Option EnclaveFleet.EncodingFault :=
  s.points.encodingFault? EnclaveFleet.Points.isByte

end String
