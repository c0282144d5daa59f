/-!
# Decimal numerals

Numbers are written in base ten with no leading zero. Reading is more liberal:
leading zeros are allowed, and an unsigned numeral may open with one plus sign.
-/

namespace SnmpSet.Text

/-- The decimal digits of a natural number, most significant first. -/
def decimal (n : Nat) : List Char := Nat.toDigits 10 n

/-- The decimal numeral of an integer, with a minus sign when it is negative. -/
def signedDecimal : Int → List Char
  | .ofNat n => decimal n
  | .negSucc n => '-' :: decimal (n + 1)

/-- The number denoted by one or more ASCII digits. -/
def readDigits (cs : List Char) : Option Nat :=
  if cs ≠ [] ∧ cs.all Char.isDigit then some (Nat.ofDigitChars 10 cs 0) else none

/-- The number denoted by digits that may follow one plus sign. -/
def readUnsigned : List Char → Option Nat
  | '+' :: cs => readDigits cs
  | cs => readDigits cs

theorem decimal_ne_nil (n : Nat) : decimal n ≠ [] := Nat.toDigits_ne_nil

theorem isDigit_of_mem_decimal {n : Nat} {c : Char} (hc : c ∈ decimal n) : c.isDigit = true :=
  Nat.isDigit_of_mem_toDigits (by decide) (by decide) hc

/-- A numeral starts with a digit. -/
theorem exists_decimal_eq_cons (n : Nat) : ∃ c cs, decimal n = c :: cs ∧ c.isDigit = true := by
  cases hchars : decimal n with
  | nil => exact absurd hchars (decimal_ne_nil n)
  | cons c cs => exact ⟨c, cs, rfl, isDigit_of_mem_decimal (hchars ▸ List.mem_cons_self)⟩

/-- Reading undoes writing. -/
theorem readDigits_decimal (n : Nat) : readDigits (decimal n) = some n := by
  have hall : (decimal n).all Char.isDigit = true :=
    List.all_eq_true.mpr fun _ hc => isDigit_of_mem_decimal hc
  rw [readDigits, if_pos ⟨decimal_ne_nil n, hall⟩, decimal, Nat.ofDigitChars_ten_toDigits]

/-- No numeral opens with the plus sign that reading allows. -/
theorem readUnsigned_decimal (n : Nat) : readUnsigned (decimal n) = some n := by
  rw [readUnsigned, readDigits_decimal]
  intro cs hcs
  have hplus : '+'.isDigit = true := isDigit_of_mem_decimal (hcs ▸ List.mem_cons_self)
  cases hplus

end SnmpSet.Text
