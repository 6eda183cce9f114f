import EnclaveFleet.Text.Points

/-!
# Bytes in hexadecimal digits

* `Hex.decode`: the bytes that pairs of digits stand for, with blanks allowed between the pairs; a
  text that is made of anything else is refused with the position that is wrong
-/
namespace EnclaveFleet.Hex
set_option autoImplicit false

def digitValue? (n : Nat) : Option Nat :=
  if '0'.toNat ≤ n ∧ n ≤ '9'.toNat then some (n - '0'.toNat)
  else if 'a'.toNat ≤ n ∧ n ≤ 'f'.toNat then some (n - 'a'.toNat + 10)
  else if 'A'.toNat ≤ n ∧ n ≤ 'F'.toNat then some (n - 'A'.toNat + 10)
  else none

/-- The blanks of ASCII. -/
def isBlank (n : Nat) : Bool := n = 0x20 || (0x09 ≤ n && n ≤ 0x0D)

/-- The second digit of a pair stands right behind the first one. -/
def decodeFrom (position : Nat) : Points → Except Nat (List UInt8)
  | [] => .ok []
  | [n] =>
    if isBlank n then .ok []
    else if (digitValue? n).isSome then .error (position + 1)
    else .error position
  | m :: n :: ps =>
    if isBlank m then decodeFrom (position + 1) (n :: ps)
    else
      match digitValue? m, digitValue? n with
      | none, _ => .error position
      | some _, none => .error (position + 1)
      | some high, some low =>
        (decodeFrom (position + 2) ps).map (UInt8.ofNat (16 * high + low) :: ·)

/-- Characters beyond ASCII are found before all else. -/
def decode (ps : Points) : Except Nat (List UInt8) :=
  match ps.findIdx? (0x80 ≤ ·) with
  | some position => .error position
  | none => decodeFrom 0 ps

end EnclaveFleet.Hex
