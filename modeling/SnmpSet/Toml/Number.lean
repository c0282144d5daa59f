import SnmpSet.Text.CodePoint
import SnmpSet.Text.Segments
import SnmpSet.Toml.Basic

/-!
# Numbers in configuration files

Digits may be grouped by single underscores. An integer fits into 64 bits with
its sign; it has no leading zeros, and one in another base has no sign. A
positive float that would round to infinity is refused.
-/

namespace SnmpSet.Toml

/-- A decimal digit, or an underscore between digits. -/
def isRunChar (isDigit : Char → Bool) (c : Char) : Bool := isDigit c || c = '_'

/-- Reads a run of digits and gives them without underscores. -/
def readRun (isDigit : Char → Bool) (cs : List Char) : Option (List Char × List Char) :=
  let run := cs.takeWhile (isRunChar isDigit)
  if (Text.segments '_' run).all (· ≠ []) then
    some (run.filter (· ≠ '_'), cs.dropWhile (isRunChar isDigit))
  else none

/-- A digit of a base up to sixteen. -/
def isDigitOf (base : Nat) (c : Char) : Bool :=
  match Text.hexValue? c with
  | some n => n < base
  | none => false

/-- Reads the digits of an integer in another base. -/
def readInBase (base : Nat) (cs : List Char) : Option (Toml × List Char) :=
  match readRun (isDigitOf base) cs with
  | none => none
  | some (digits, rest) =>
    let n := digits.foldl (fun n c => n * base + (Text.hexValue? c).getD 0) 0
    if (n : Int) ≤ Int64.maxValue.toInt then some (.integer n, rest) else none

/-- Splits off a sign, which may be missing. -/
def splitSign : List Char → List Char × List Char
  | '+' :: cs => (['+'], cs)
  | '-' :: cs => (['-'], cs)
  | cs => ([], cs)

/-- Reads the fraction of a numeral, which may be missing, and gives its digits. -/
def readFraction : List Char → Option (List Char × List Char)
  | '.' :: cs => readRun Char.isDigit cs
  | cs => some ([], cs)

/-- Reads an exponent after its letter. -/
def readPower (cs : List Char) : Option (Int × List Char) :=
  let (sign, cs) := splitSign cs
  match readRun Char.isDigit cs with
  | none => none
  | some (digits, rest) =>
    let n : Int := Nat.ofDigitChars 10 digits 0
    some (if sign = ['-'] then -n else n, rest)

/-- Reads the exponent of a numeral, which may be missing. -/
def readExponent : List Char → Option (Option Int × List Char)
  | 'e' :: cs => (readPower cs).map fun (n, rest) => (some n, rest)
  | 'E' :: cs => (readPower cs).map fun (n, rest) => (some n, rest)
  | cs => some (none, cs)

/-- The least number that rounds to infinity in double precision: half a unit in the
last place above the largest finite number. -/
def infinityBound : Nat := (Nat.pow 2 54 - 1) * Nat.pow 2 970

/-- The number `digits * 10 ^ exponent` rounds to infinity. A number of more than
310 places before the point does and one of fewer than 308 does not, so that no
huge power is ever computed. -/
def overflows (digits : Nat) (exponent : Int) : Bool :=
  let places := (Nat.toDigits 10 digits).length + exponent
  if digits = 0 ∨ places < 308 then false
  else if 310 < places then true
  else infinityBound * Nat.pow 10 (-exponent).toNat ≤ digits * Nat.pow 10 exponent.toNat

/-- Reads an integer in base ten or a float, after its sign. -/
def readDecimal (sign cs : List Char) : Option (Toml × List Char) := do
  let (whole, afterWhole) ← readRun Char.isDigit cs
  if 1 < whole.length ∧ whole.head? = some '0' then none
  let (fraction, afterFraction) ← readFraction afterWhole
  let (exponent, rest) ← readExponent afterFraction
  let isNegative := sign = ['-']
  if fraction = [] ∧ exponent = none then
    let magnitude : Int := Nat.ofDigitChars 10 whole 0
    let n := if isNegative then -magnitude else magnitude
    if Int64.minValue.toInt ≤ n ∧ n ≤ Int64.maxValue.toInt then some (.integer n, rest) else none
  else
    let digits := Nat.ofDigitChars 10 (whole ++ fraction) 0
    if !isNegative ∧ overflows digits (exponent.getD 0 - fraction.length) then none
    else some (.float (sign ++ cs.take (cs.length - rest.length)), rest)

/-- Reads a number. -/
def readNumber : List Char → Option (Toml × List Char)
  | '0' :: 'x' :: cs => readInBase 16 cs
  | '0' :: 'o' :: cs => readInBase 8 cs
  | '0' :: 'b' :: cs => readInBase 2 cs
  | cs =>
    match splitSign cs with
    | (sign, 'i' :: 'n' :: 'f' :: rest) => some (.float (sign ++ "inf".toList), rest)
    | (sign, 'n' :: 'a' :: 'n' :: rest) => some (.float (sign ++ "nan".toList), rest)
    | (sign, rest) => readDecimal sign rest

end SnmpSet.Toml
