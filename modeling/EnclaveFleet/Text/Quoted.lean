import EnclaveFleet.Text.Points
import EnclaveFleet.Text.Printable

/-!
# Texts in quotes

Messages show a text between quotes, with everything that cannot be seen written as an escape.

* `quoted`: the text in single quotes, or in double quotes where that saves escaping
* `escape`: one code point between quotes of the given kind
-/
namespace EnclaveFleet.Text
set_option autoImplicit false

def hexDigit (n : Nat) : Char :=
  if n < 10 then Char.ofNat ('0'.toNat + n) else Char.ofNat ('a'.toNat + (n - 10))

/-- The last `width` hexadecimal digits of a number, in lower case. -/
def hexDigits : Nat → Nat → List Char
  | 0, _ => []
  | width + 1, n => hexDigits width (n / 16) ++ [hexDigit (n % 16)]

theorem length_hexDigits (width n : Nat) : (hexDigits width n).length = width := by
  induction width generalizing n with
  | zero => rfl
  | succ width ih => simp [hexDigits, ih]

/-- The shortest of the three numeric escapes that holds the code point. -/
def escapePoint (n : Nat) : List Char :=
  if n < 0x100 then '\\' :: 'x' :: hexDigits 2 n
  else if n < 0x10000 then '\\' :: 'u' :: hexDigits 4 n
  else '\\' :: 'U' :: hexDigits 8 n

def escape (quote : Char) (n : Nat) : List Char :=
  let c := Char.ofNat n
  if Points.isSurrogate n then escapePoint n
  else if c = quote || c = '\\' then ['\\', c]
  else if c = '\n' then ['\\', 'n']
  else if c = '\r' then ['\\', 'r']
  else if c = '\t' then ['\\', 't']
  else if isPrintable c then [c]
  else escapePoint n

/-- Double quotes are used for a text that holds a single quote and no double one. -/
def quoteFor (ps : Points) : Char :=
  if '\''.toNat ∈ ps ∧ '"'.toNat ∉ ps then '"' else '\''

def quoted (ps : Points) : List Char :=
  quoteFor ps :: (ps.flatMap (escape (quoteFor ps)) ++ [quoteFor ps])

end EnclaveFleet.Text

namespace String

def quotedText (s : String) : String :=
  ofList (EnclaveFleet.Text.quoted s.points)

end String
