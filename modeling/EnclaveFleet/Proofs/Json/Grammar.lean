import EnclaveFleet.Json.Basic
import EnclaveFleet.Text.Units
import Mathlib.Data.Nat.Digits.Defs

/-!
# The grammar of JSON

What a text denotes, without a reader: the grammar of RFC 8259, in which `NaN`, `Infinity` and
`-Infinity` are numbers, any surrogate may be escaped, and names may come again.

* `Blanks`: white space between the parts of a text
* `Spells body cs`: the inside of a string and the characters that it stands for
* `Numeral text j`: a number and its value
* `Denotes text part`: the text of a value, or of what an array or object holds with its closing
  character
* `Document text j`: a whole text
-/
namespace EnclaveFleet.Json
set_option autoImplicit false

def Blanks (cs : List Char) : Prop := ∀ c ∈ cs, c ∈ [' ', '\t', '\n', '\r']

/-! ## Strings -/

/-- A hexadecimal digit of either case. -/
def HexDigit (c : Char) (n : Nat) : Prop :=
  "0123456789abcdef".toList[n]? = some c ∨ "0123456789ABCDEF".toList[n]? = some c

/-- Four digits name a number of 16 bits. -/
def HexPoint (a b c d : Char) (n : Nat) : Prop :=
  ∃ w x y z, HexDigit a w ∧ HexDigit b x ∧ HexDigit c y ∧ HexDigit d z ∧
    n = Nat.ofDigits 16 [z, y, x, w]

/-- The characters behind a backslash, and what they stand for. -/
def escapes : List (Char × Char) :=
  [('"', '"'), ('\\', '\\'), ('/', '/'), ('b', '\x08'), ('f', '\x0c'), ('n', '\n'), ('r', '\r'),
    ('t', '\t')]

/-- The inside of a string. Two escapes that name a high and a low surrogate are one code point. -/
inductive Spells : List Char → List Char → Prop
  | nil : Spells [] []
  | plain {c : Char} {body cs : List Char} (hlow : 0x20 ≤ c.toNat) (hquote : c ≠ '"')
      (hslash : c ≠ '\\') (h : Spells body cs) : Spells (c :: body) (c :: cs)
  | escape {c e : Char} {body cs : List Char} (he : (c, e) ∈ escapes) (h : Spells body cs) :
      Spells ('\\' :: c :: body) (e :: cs)
  | pair {a b c d e f g h : Char} {n m : Nat} {body cs : List Char} (hn : HexPoint a b c d n)
      (hm : HexPoint e f g h m) (hhigh : Points.isHigh n) (hlow : Points.isLow m)
      (hbody : Spells body cs) :
      Spells ('\\' :: 'u' :: a :: b :: c :: d :: '\\' :: 'u' :: e :: f :: g :: h :: body)
        (Points.pointChars (Points.joinPair n m) ++ cs)
  | point {a b c d : Char} {n : Nat} {body cs : List Char} (hn : HexPoint a b c d n)
      (halone : Points.isHigh n → ∀ e f g h m later,
        body = '\\' :: 'u' :: e :: f :: g :: h :: later → HexPoint e f g h m → ¬Points.isLow m)
      (hbody : Spells body cs) :
      Spells ('\\' :: 'u' :: a :: b :: c :: d :: body) (Points.pointChars n ++ cs)

/-! ## Numbers -/

/-- One digit at least, all of ASCII. -/
def Decimal (cs : List Char) : Prop := cs ≠ [] ∧ ∀ c ∈ cs, '0' ≤ c ∧ c ≤ '9'

def decimalValue (cs : List Char) : Nat :=
  Nat.ofDigits 10 (cs.reverse.map fun c => c.toNat - '0'.toNat)

/-- No zero stands in front of other digits. -/
def Whole (cs : List Char) : Prop := Decimal cs ∧ (cs.head? = some '0' → cs = ['0'])

/-- The places behind the point, if there is one. -/
inductive Fraction : List Char → List Char → Prop
  | none : Fraction [] []
  | places {cs : List Char} (h : Decimal cs) : Fraction ('.' :: cs) cs

inductive Exponent : List Char → Int → Prop
  | none : Exponent [] 0
  | unsigned {c : Char} {cs : List Char} (hc : c = 'e' ∨ c = 'E') (h : Decimal cs) :
      Exponent (c :: cs) (decimalValue cs)
  | plus {c : Char} {cs : List Char} (hc : c = 'e' ∨ c = 'E') (h : Decimal cs) :
      Exponent (c :: '+' :: cs) (decimalValue cs)
  | minus {c : Char} {cs : List Char} (hc : c = 'e' ∨ c = 'E') (h : Decimal cs) :
      Exponent (c :: '-' :: cs) (-(decimalValue cs : Int))

/-- A number that is not negative, or its negative. -/
def sign (negative : Bool) : List Char := if negative then ['-'] else []

def signed (negative : Bool) (n : Nat) : Int := if negative then -(n : Int) else n

inductive Numeral : List Char → Json → Prop
  | int (negative : Bool) {whole : List Char} (h : Whole whole) :
      Numeral (sign negative ++ whole) (.int (signed negative (decimalValue whole)))
  | real (negative : Bool) {whole fraction places exponent : List Char} {power : Int}
      (hwhole : Whole whole) (hfraction : Fraction fraction places)
      (hexponent : Exponent exponent power) (hne : fraction ++ exponent ≠ []) :
      Numeral (sign negative ++ (whole ++ (fraction ++ exponent)))
        (.real (.decimal negative (decimalValue (whole ++ places)) (power - places.length)))

/-! ## Values -/

/-- What a piece of a text can be: a value, or the rest of an array or object up to the character
that closes it. -/
inductive Part where
  | value (j : Json)
  | items (js : List Json)
  | fields (fs : List (String × Json))

/-- The values that have names. -/
def names : List (List Char × Json) := [
  (['n', 'u', 'l', 'l'], .null),
  (['t', 'r', 'u', 'e'], .bool true),
  (['f', 'a', 'l', 's', 'e'], .bool false),
  (['N', 'a', 'N'], .real .nan),
  (['I', 'n', 'f', 'i', 'n', 'i', 't', 'y'], .real (.infinite false)),
  (['-', 'I', 'n', 'f', 'i', 'n', 'i', 't', 'y'], .real (.infinite true))]

inductive Denotes : List Char → Part → Prop
  | name {cs : List Char} {j : Json} (h : (cs, j) ∈ names) : Denotes cs (.value j)
  | numeral {cs : List Char} {j : Json} (h : Numeral cs j) : Denotes cs (.value j)
  | text {body cs : List Char} (h : Spells body cs) :
      Denotes ('"' :: (body ++ ['"'])) (.value (.text (String.ofList cs)))
  | emptyArray {b : List Char} (hb : Blanks b) :
      Denotes ('[' :: (b ++ [']'])) (.value (.array []))
  | array {b cs : List Char} {js : List Json} (hb : Blanks b) (h : Denotes cs (.items js)) :
      Denotes ('[' :: (b ++ cs)) (.value (.array js))
  | emptyObject {b : List Char} (hb : Blanks b) :
      Denotes ('{' :: (b ++ ['}'])) (.value (.object []))
  | object {b cs : List Char} {fs : List (String × Json)} (hb : Blanks b)
      (h : Denotes cs (.fields fs)) : Denotes ('{' :: (b ++ cs)) (.value (.object fs))
  | lastItem {b cs : List Char} {j : Json} (h : Denotes cs (.value j)) (hb : Blanks b) :
      Denotes (cs ++ (b ++ [']'])) (.items [j])
  | item {b b' cs rest : List Char} {j : Json} {js : List Json} (h : Denotes cs (.value j))
      (hb : Blanks b) (hb' : Blanks b') (hrest : Denotes rest (.items js)) :
      Denotes (cs ++ (b ++ ',' :: (b' ++ rest))) (.items (j :: js))
  | lastField {body name u v w cs : List Char} {j : Json} (hname : Spells body name)
      (hu : Blanks u) (hv : Blanks v) (h : Denotes cs (.value j)) (hw : Blanks w) :
      Denotes ('"' :: (body ++ '"' :: (u ++ ':' :: (v ++ (cs ++ (w ++ ['}']))))))
        (.fields [(String.ofList name, j)])
  | field {body name u v w x cs rest : List Char} {j : Json} {fs : List (String × Json)}
      (hname : Spells body name) (hu : Blanks u) (hv : Blanks v) (h : Denotes cs (.value j))
      (hw : Blanks w) (hx : Blanks x) (hrest : Denotes rest (.fields fs)) :
      Denotes ('"' :: (body ++ '"' :: (u ++ ':' :: (v ++ (cs ++ (w ++ ',' :: (x ++ rest)))))))
        (.fields ((String.ofList name, j) :: fs))

/-- A value with blanks around it. -/
def Document (text : List Char) (j : Json) : Prop :=
  ∃ b cs b', Blanks b ∧ Denotes cs (.value j) ∧ Blanks b' ∧ text = b ++ (cs ++ b')

end EnclaveFleet.Json
