import EnclaveFleet.Text.Quoted
import EnclaveFleet.Text.Units

/-!
# Texts that are echoed

A refused argument is echoed between quotes, with controls and lone surrogates written as escapes.

* `echo`: the text between quotes, cut off where it is long
-/
namespace EnclaveFleet.Text.Echo
set_option autoImplicit false

/-- Controls are escaped, those of the upper half too. -/
def isControl (n : Nat) : Bool :=
  n < 0x20 || (0x7F ≤ n && n < 0xA0)

def escape? (quote : Char) (n : Nat) : Option (List Char) :=
  match Char.ofNat n with
  | '\x08' => some ['\\', 'b']
  | '\t' => some ['\\', 't']
  | '\n' => some ['\\', 'n']
  | '\x0c' => some ['\\', 'f']
  | '\r' => some ['\\', 'r']
  | c =>
    if Points.isSurrogate n then some ('\\' :: 'u' :: hexDigits 4 n)
    else if c = quote ∨ c = '\\' then some ['\\', c]
    else if isControl n then some ('\\' :: 'x' :: (hexDigits 2 n).map Char.toUpper)
    else none

def escape (quote : Char) (n : Nat) : Points :=
  match escape? quote n with
  | some cs => cs.map Char.toNat
  | none => [n]

/-- A placeholder in the text would be one between backquotes, too. -/
def holdsPlaceholder : Points → Bool
  | m :: n :: ps => (m = '$'.toNat && n = '\x7b'.toNat) || holdsPlaceholder (n :: ps)
  | _ => false

/-- The first kind of quotes that does not occur in the text. -/
def quoteFor (ps : Points) : Char :=
  if '\''.toNat ∉ ps then '\''
  else if '"'.toNat ∉ ps then '"'
  else if '\x60'.toNat ∉ ps ∧ !holdsPlaceholder ps then '\x60'
  else '\''

def line (ps : Points) : Points :=
  (quoteFor ps).toNat :: (ps.flatMap (escape (quoteFor ps)) ++ [(quoteFor ps).toNat])

/-- The lines of a text, each with the break at its end. -/
def brokenLines : Points → List Points
  | [] => []
  | n :: ps =>
    match brokenLines ps with
    | [] => [[n]]
    | l :: ls => if n = '\n'.toNat then [n] :: l :: ls else (n :: l) :: ls

/-- Longer texts are echoed line by line. -/
def maxLineUnits : Nat := 76

def lineBreak : Points := " +\n  ".points

def whole (ps : Points) : Points :=
  if maxLineUnits < ps.toUnits.length then lineBreak.intercalate ((brokenLines ps).map line)
  else line ps

def maxUnits : Nat := 128

def echo (ps : Points) : Points :=
  let shown := whole ps.paired
  if maxUnits < shown.toUnits.length then shown.takeUnits maxUnits ++ "...".points else shown

end EnclaveFleet.Text.Echo

def String.echo (s : String) : String :=
  String.ofPoints (EnclaveFleet.Text.Echo.echo s.points)
