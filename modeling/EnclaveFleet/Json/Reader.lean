import EnclaveFleet.Json.Basic
import EnclaveFleet.Text.Numeral
import EnclaveFleet.Text.Units

/-!
# Reading JSON

The grammar of RFC 8259 with three extensions: `NaN`, `Infinity` and `-Infinity` are numbers, a
`\u` escape may name a surrogate without a partner, and names may be repeated. Integers of more
than `Text.Numeral.maxDigits` digits are refused with an error of their own.

* `Json.ReadError`: why a text is refused
* `Json.parseWithin`: the value that a text denotes, if its arrays and objects lie in each other no
  deeper than a number of levels
* `Json.parse`: the value however deep it is

Each reader returns the value and the rest of the text. The readers of nested values have a budget
of steps, which is twice the length of the text, since two steps take a character at least.
-/
namespace EnclaveFleet.Json
set_option autoImplicit false

/-- What holds other values. -/
inductive Container where
  | array
  | object
deriving DecidableEq

def Container.name : Container → String
  | .array => "array"
  | .object => "object"

inductive ReadError where
  | malformed
  /-- An integer with so many digits. -/
  | numeralTooLong (digits : Nat)
  /-- A container lies in too many others. -/
  | tooDeep (container : Container)
deriving DecidableEq

abbrev Rest := List Char

def skipBlanks (cs : List Char) : Rest :=
  cs.dropWhile fun c => c = ' ' || c = '\t' || c = '\n' || c = '\r'

/-! ## Strings -/

def hexDigit? (c : Char) : Option Nat :=
  if '0' ≤ c ∧ c ≤ '9' then some (c.toNat - '0'.toNat)
  else if 'a' ≤ c ∧ c ≤ 'f' then some (c.toNat - 'a'.toNat + 10)
  else if 'A' ≤ c ∧ c ≤ 'F' then some (c.toNat - 'A'.toNat + 10)
  else none

def hexPoint? (a b c d : Char) : Option Nat := do
  return (← hexDigit? a) * 0x1000 + (← hexDigit? b) * 0x100 + (← hexDigit? c) * 0x10 +
    (← hexDigit? d)

def escaped? : Char → Option Char
  | '"' => some '"'
  | '\\' => some '\\'
  | '/' => some '/'
  | 'b' => some '\x08'
  | 'f' => some '\x0c'
  | 'n' => some '\n'
  | 'r' => some '\r'
  | 't' => some '\t'
  | _ => none

/-- The rest of a string whose opening quote is read. Two escapes that name a high and a low
surrogate are one code point. -/
def stringTail : List Char → Option (List Char × Rest)
  | [] => none
  | '"' :: rest => some ([], rest)
  | '\\' :: 'u' :: a :: b :: c :: d :: rest@('\\' :: 'u' :: e :: f :: g :: h :: later) => do
    let n ← hexPoint? a b c d
    let m ← hexPoint? e f g h
    if Points.isHigh n && Points.isLow m then
      let (cs, rest) ← stringTail later
      return (Points.pointChars (Points.joinPair n m) ++ cs, rest)
    else
      let (cs, rest) ← stringTail rest
      return (Points.pointChars n ++ cs, rest)
  | '\\' :: 'u' :: a :: b :: c :: d :: rest => do
    let n ← hexPoint? a b c d
    let (cs, rest) ← stringTail rest
    return (Points.pointChars n ++ cs, rest)
  | '\\' :: c :: rest => do
    let escaped ← escaped? c
    let (cs, rest) ← stringTail rest
    return (escaped :: cs, rest)
  | c :: rest =>
    if c.toNat < 0x20 then none
    else do
      let (cs, rest) ← stringTail rest
      return (c :: cs, rest)
termination_by cs => cs.length
decreasing_by
  · exact (Nat.lt_add_of_pos_right (by decide) : later.length < later.length + 12)
  · subst_vars
    exact (Nat.lt_add_of_pos_right (by decide) : later.length + 6 < later.length + 6 + 6)
  · exact (Nat.lt_add_of_pos_right (by decide) : rest.length < rest.length + 6)
  · exact (Nat.lt_add_of_pos_right (by decide) : rest.length < rest.length + 2)
  · exact (Nat.lt_add_of_pos_right (by decide) : rest.length < rest.length + 1)

/-! ## Numbers -/

def isDigit (c : Char) : Bool := '0' ≤ c ∧ c ≤ '9'

def digitValue (c : Char) : Nat := c.toNat - '0'.toNat

/-- A zero alone, or digits that begin with another one. -/
def integerPart? : List Char → Option (List Char × Rest)
  | '0' :: rest => some (['0'], rest)
  | cs =>
    if (cs.takeWhile isDigit).isEmpty then none
    else some (cs.takeWhile isDigit, cs.dropWhile isDigit)

/-- A point and digits; anything else is left for what follows the number. -/
def fraction? : List Char → Option (List Char × Rest)
  | '.' :: cs =>
    if (cs.takeWhile isDigit).isEmpty then none
    else some (cs.takeWhile isDigit, cs.dropWhile isDigit)
  | _ => none

def exponentDigits? (cs : List Char) : Option (Nat × Rest) :=
  if (cs.takeWhile isDigit).isEmpty then none
  else some (Text.Numeral.ofDigits ((cs.takeWhile isDigit).map digitValue), cs.dropWhile isDigit)

def exponent? : List Char → Option (Int × Rest)
  | c :: cs =>
    if c = 'e' ∨ c = 'E' then
      match cs with
      | '-' :: cs => (exponentDigits? cs).map fun (n, rest) => (-(n : Int), rest)
      | '+' :: cs => (exponentDigits? cs).map fun (n, rest) => ((n : Int), rest)
      | cs => (exponentDigits? cs).map fun (n, rest) => ((n : Int), rest)
    else none
  | [] => none

def unsignedNumber (negative : Bool) (cs : List Char) : Except ReadError (Json × Rest) :=
  match integerPart? cs with
  | none => .error .malformed
  | some (whole, rest) =>
    let fraction := fraction? rest
    let rest := (fraction.map (·.2)).getD rest
    let exponent := exponent? rest
    let rest := (exponent.map (·.2)).getD rest
    let places := (fraction.map (·.1)).getD []
    let mantissa := Text.Numeral.ofDigits ((whole ++ places).map digitValue)
    if fraction.isNone && exponent.isNone then
      if whole.length ≤ Text.Numeral.maxDigits then
        .ok (.int (if negative then -(mantissa : Int) else mantissa), rest)
      else .error (.numeralTooLong whole.length)
    else
      .ok (.real (.decimal negative mantissa ((exponent.map (·.1)).getD 0 - places.length)), rest)

def number : List Char → Except ReadError (Json × Rest)
  | '-' :: cs => unsignedNumber true cs
  | cs => unsignedNumber false cs

/-! ## Values -/

mutual

/-- A value in which containers can open on `levels` levels. -/
def value : Nat → Nat → List Char → Except ReadError (Json × Rest)
  | 0, _, _ => .error .malformed
  | steps + 1, levels, cs =>
    match cs with
    | '"' :: rest =>
      match stringTail rest with
      | none => .error .malformed
      | some (cs, rest) => .ok (.text (String.ofList cs), rest)
    | '{' :: rest =>
      match levels with
      | 0 => .error (.tooDeep .object)
      | levels + 1 =>
        match skipBlanks rest with
        | '}' :: rest => .ok (.object [], rest)
        | rest => do
          let (fields, rest) ← members steps levels rest
          return (.object fields, rest)
    | '[' :: rest =>
      match levels with
      | 0 => .error (.tooDeep .array)
      | levels + 1 =>
        match skipBlanks rest with
        | ']' :: rest => .ok (.array [], rest)
        | rest => do
          let (items, rest) ← elements steps levels rest
          return (.array items, rest)
    | 'n' :: 'u' :: 'l' :: 'l' :: rest => .ok (.null, rest)
    | 't' :: 'r' :: 'u' :: 'e' :: rest => .ok (.bool true, rest)
    | 'f' :: 'a' :: 'l' :: 's' :: 'e' :: rest => .ok (.bool false, rest)
    | 'N' :: 'a' :: 'N' :: rest => .ok (.real .nan, rest)
    | 'I' :: 'n' :: 'f' :: 'i' :: 'n' :: 'i' :: 't' :: 'y' :: rest =>
      .ok (.real (.infinite false), rest)
    | '-' :: 'I' :: 'n' :: 'f' :: 'i' :: 'n' :: 'i' :: 't' :: 'y' :: rest =>
      .ok (.real (.infinite true), rest)
    | cs => number cs

/-- The fields of an object up to its closing brace, at least one. -/
def members : Nat → Nat → List Char → Except ReadError (List (String × Json) × Rest)
  | steps + 1, levels, '"' :: rest =>
    match stringTail rest with
    | none => .error .malformed
    | some (name, rest) =>
      match skipBlanks rest with
      | ':' :: rest => do
        let (v, rest) ← value steps levels (skipBlanks rest)
        match skipBlanks rest with
        | '}' :: rest => return ([(String.ofList name, v)], rest)
        | ',' :: rest => do
          let (fields, rest) ← members steps levels (skipBlanks rest)
          return ((String.ofList name, v) :: fields, rest)
        | _ => .error .malformed
      | _ => .error .malformed
  | _, _, _ => .error .malformed

/-- The items of an array up to its closing bracket, at least one. -/
def elements : Nat → Nat → List Char → Except ReadError (List Json × Rest)
  | 0, _, _ => .error .malformed
  | steps + 1, levels, cs => do
    let (v, rest) ← value steps levels cs
    match skipBlanks rest with
    | ']' :: rest => return ([v], rest)
    | ',' :: rest => do
      let (items, rest) ← elements steps levels (skipBlanks rest)
      return (v :: items, rest)
    | _ => .error .malformed

end

/-- The value of a whole text, with blanks allowed around it. -/
def parseWithin (levels : Nat) (cs : List Char) : Except ReadError Json :=
  match value (2 * cs.length + 1) levels (skipBlanks cs) with
  | .error e => .error e
  | .ok (v, rest) => if (skipBlanks rest).isEmpty then .ok v else .error .malformed

/-- A text has no more levels than characters. -/
def parse (cs : List Char) : Except ReadError Json := parseWithin cs.length cs

end EnclaveFleet.Json
