/-!
# Blanks around a text

* `isBlank`: the characters that count as white space at the ends of a value
* `trim`: a text without the blanks at its two ends
* `allBlank`: nothing is left of the text once it is trimmed

Texts are lists of characters here; `String.trimBlanks` is `trim` on strings.
-/
namespace EnclaveFleet.Text
set_option autoImplicit false

/-- White space of Unicode, and the four separators U+001C to U+001F. -/
def isBlank (c : Char) : Bool :=
  let n := c.toNat
  (0x09 ≤ n && n ≤ 0x0D) || (0x1C ≤ n && n ≤ 0x20) || n == 0x85 || n == 0xA0 || n == 0x1680 ||
    (0x2000 ≤ n && n ≤ 0x200A) || n == 0x2028 || n == 0x2029 || n == 0x202F || n == 0x205F ||
    n == 0x3000

/-- The text without the characters of the class at its end. -/
def dropEndWhile (p : Char → Bool) (cs : List Char) : List Char :=
  (cs.reverse.dropWhile p).reverse

def trimWhile (p : Char → Bool) (cs : List Char) : List Char :=
  dropEndWhile p (cs.dropWhile p)

def trim (cs : List Char) : List Char :=
  trimWhile isBlank cs

def allBlank (cs : List Char) : Bool :=
  cs.all isBlank

end EnclaveFleet.Text

namespace String

def trimBlanks (s : String) : String :=
  ofList (EnclaveFleet.Text.trim s.toList)

/-- Nothing but blanks, the empty text included. -/
def isAllBlank (s : String) : Bool :=
  EnclaveFleet.Text.allBlank s.toList

end String
