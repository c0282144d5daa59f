import SnmpSet.Text.Quoted
import SnmpSet.Text.Utf8

/-!
# Octets in hexadecimal

Octets are written as two lowercase digits each and read in either case.
-/

namespace SnmpSet.Text

/-- The octets as pairs of lowercase hexadecimal digits. -/
def hex (octets : List UInt8) : List Char :=
  octets.flatMap fun b => [Nat.digitChar (b.toNat / 16), Nat.digitChar (b.toNat % 16)]

/-- The value of an ASCII hexadecimal digit. -/
def hexDigit? (b : UInt8) : Option UInt8 :=
  if 0x30 ≤ b ∧ b ≤ 0x39 then some (b - 0x30)
  else if 0x41 ≤ b ∧ b ≤ 0x46 then some (b - 0x41 + 10)
  else if 0x61 ≤ b ∧ b ≤ 0x66 then some (b - 0x61 + 10)
  else none

/-- Why a text is not hexadecimal octets. -/
inductive HexError where
  /-- The text has an odd number of octets. -/
  | oddLength
  /-- The octet at a position is no hexadecimal digit. -/
  | badDigit (octet : UInt8) (position : Nat)
  deriving DecidableEq

/-- The wording of a hexadecimal error. An octet is shown as the character of
the same code. -/
def HexError.message : HexError → String
  | .oddLength => "Odd number of digits"
  | .badDigit octet position =>
    String.join
      ["Invalid character ", quotedChar (Char.ofNat octet.toNat), " at position ",
        toString position]

/-- Reads digits two by two; `position` is that of the first digit. -/
def hexPairs : List UInt8 → Nat → Except HexError (List UInt8)
  | high :: low :: rest, position =>
    match hexDigit? high, hexDigit? low with
    | none, _ => .error (.badDigit high position)
    | some _, none => .error (.badDigit low (position + 1))
    | some h, some l => (hexPairs rest (position + 2)).map ((h * 16 + l) :: ·)
  | [_], _ => .error .oddLength
  | [], _ => .ok []

/-- The octets that a text spells. An odd length is reported before any bad digit. -/
def readHex (s : String) : Except HexError (List UInt8) :=
  let digits := octetsOf s
  if digits.length % 2 = 1 then .error .oddLength else hexPairs digits 0

end SnmpSet.Text
