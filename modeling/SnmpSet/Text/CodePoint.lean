/-!
# Characters named by code points

Data formats name a character inside a string by the hexadecimal digits of its
code point. Surrogates and numbers past `10FFFF` name no character.
-/

namespace SnmpSet.Text

/-- The value of an ASCII hexadecimal digit in either case. -/
def hexValue? (c : Char) : Option Nat :=
  if '0' ≤ c ∧ c ≤ '9' then some (c.toNat - '0'.toNat)
  else if 'a' ≤ c ∧ c ≤ 'f' then some (c.toNat - 'a'.toNat + 10)
  else if 'A' ≤ c ∧ c ≤ 'F' then some (c.toNat - 'A'.toNat + 10)
  else none

/-- The number that hexadecimal digits denote, most significant first. -/
def readHexNumber (digits : List Char) : Option Nat :=
  digits.foldlM (fun n c => (hexValue? c).map (n * 16 + ·)) 0

/-- The character of a code point. -/
def ofCodePoint? (n : Nat) : Option Char :=
  if n.isValidChar then some (Char.ofNat n) else none

/-- Puts a character, if it could be told, before what a reader read after it. -/
def startWith? : Option Char → Option (List Char × List Char) → Option (List Char × List Char)
  | some c, some (cs, rest) => some (c :: cs, rest)
  | _, _ => none

/-- A character's own code point names it. -/
theorem ofCodePoint?_toNat (c : Char) : ofCodePoint? c.toNat = some c := by
  have hvalid : c.toNat.isValidChar := c.valid
  rw [ofCodePoint?, if_pos hvalid, Char.ofNat_toNat]

end SnmpSet.Text
