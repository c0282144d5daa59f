import SnmpSet.Json.Basic
import SnmpSet.Text.CodePoint

/-!
# Reading JSON

A reader takes characters and answers with what it read and the characters
after it, or not at all. Blanks may stand between any two tokens. An escape for
half of a surrogate pair needs the other half right behind it.
-/

namespace SnmpSet.Json

/-- The four characters that may stand between tokens. -/
def isBlank (c : Char) : Bool := c = ' ' || c = '\n' || c = '\t' || c = '\r'

/-- The text from its first token on. -/
def skipBlanks (cs : List Char) : List Char := cs.dropWhile isBlank

/-- The character that a one-letter escape stands for. -/
def unescape? (c : Char) : Option Char :=
  if c = '"' ∨ c = '\\' ∨ c = '/' then some c
  else if c = 'b' then some '\x08'
  else if c = 'f' then some '\x0c'
  else if c = 'n' then some '\n'
  else if c = 'r' then some '\r'
  else if c = 't' then some '\t'
  else none

/-- The first half of a surrogate pair. -/
def isHighSurrogate (unit : Nat) : Bool := 0xd800 ≤ unit && unit < 0xdc00

/-- The second half of a surrogate pair. -/
def isLowSurrogate (unit : Nat) : Bool := 0xdc00 ≤ unit && unit < 0xe000

/-- The character that the two halves of a surrogate pair stand for. -/
def ofSurrogates? (high low : Nat) : Option Char :=
  if isLowSurrogate low then
    Text.ofCodePoint? ((high - 0xd800) * 0x400 + (low - 0xdc00) + 0x10000)
  else none

/-- Reads a string after its opening quote. `high` is the first half of a
surrogate pair that was read and still needs its second half. -/
def readString (high : Option Nat) : List Char → Option (List Char × List Char)
  | [] => none
  | c :: cs =>
    match high with
    | some high =>
      if c = '\\' then
        match cs with
        | 'u' :: a :: b :: c :: d :: cs =>
          Text.startWith? ((Text.readHexNumber [a, b, c, d]).bind (ofSurrogates? high))
            (readString none cs)
        | _ => none
      else none
    | none =>
      if c = '"' then some ([], cs)
      else if c = '\\' then
        match cs with
        | 'u' :: a :: b :: c :: d :: cs =>
          match Text.readHexNumber [a, b, c, d] with
          | none => none
          | some unit =>
            if isHighSurrogate unit then readString (some unit) cs
            else Text.startWith? (Text.ofCodePoint? unit) (readString none cs)
        | e :: cs => Text.startWith? (unescape? e) (readString none cs)
        | [] => none
      else if c.toNat < 0x20 then none
      else Text.startWith? (some c) (readString none cs)

/-- Reads one or more digits. -/
def readDigitRun (cs : List Char) : Option (List Char × List Char) :=
  match cs.takeWhile Char.isDigit with
  | [] => none
  | digits => some (digits, cs.dropWhile Char.isDigit)

/-- Reads the digits before the point: a lone zero, or a run that starts with
another digit. -/
def readWhole (cs : List Char) : Option (List Char × List Char) :=
  match readDigitRun cs with
  | some ('0' :: _ :: _, _) => none
  | whole => whole

/-- Reads the fraction of a numeral, which may be missing. -/
def readFraction : List Char → Option (List Char × List Char)
  | '.' :: cs => (readDigitRun cs).map fun (digits, rest) => ('.' :: digits, rest)
  | cs => some ([], cs)

/-- Reads the digits of an exponent after its sign, which may be missing. -/
def readSignedRun : List Char → Option (List Char × List Char)
  | '+' :: cs => (readDigitRun cs).map fun (digits, rest) => ('+' :: digits, rest)
  | '-' :: cs => (readDigitRun cs).map fun (digits, rest) => ('-' :: digits, rest)
  | cs => readDigitRun cs

/-- Reads the exponent of a numeral, which may be missing. -/
def readExponent : List Char → Option (List Char × List Char)
  | 'e' :: cs => (readSignedRun cs).map fun (digits, rest) => ('e' :: digits, rest)
  | 'E' :: cs => (readSignedRun cs).map fun (digits, rest) => ('E' :: digits, rest)
  | cs => some ([], cs)

/-- A number from the parts of its numeral. -/
def ofNumeral (negative : Bool) (whole fraction exponent : List Char) : Json :=
  let n := Nat.ofDigitChars 10 whole 0
  if fraction = [] ∧ exponent = [] ∧ ¬(negative ∧ n = 0) then
    .integer (if negative then -n else n)
  else .numeral ((if negative then ['-'] else []) ++ whole ++ fraction ++ exponent)

/-- Reads a number after its sign. -/
def readMagnitude (negative : Bool) (cs : List Char) : Option (Json × List Char) := do
  let (whole, cs) ← readWhole cs
  let (fraction, cs) ← readFraction cs
  let (exponent, cs) ← readExponent cs
  return (ofNumeral negative whole fraction exponent, cs)

/-- Reads a number. -/
def readNumber : List Char → Option (Json × List Char)
  | '-' :: cs => readMagnitude true cs
  | cs => readMagnitude false cs

mutual

/-- Reads a value that starts with the first character. -/
def readValue : (fuel : Nat) → List Char → Option (Json × List Char)
  | 0, _ => none
  | fuel + 1, cs =>
    match cs with
    | 'n' :: 'u' :: 'l' :: 'l' :: cs => some (.null, cs)
    | 't' :: 'r' :: 'u' :: 'e' :: cs => some (.bool true, cs)
    | 'f' :: 'a' :: 'l' :: 's' :: 'e' :: cs => some (.bool false, cs)
    | '"' :: cs =>
      match readString none cs with
      | some (s, cs) => some (.string (String.ofList s), cs)
      | none => none
    | '[' :: cs =>
      match skipBlanks cs with
      | ']' :: cs => some (.array [], cs)
      | cs =>
        match readItems fuel cs with
        | some (items, cs) => some (.array items, cs)
        | none => none
    | '\x7b' :: cs =>
      match skipBlanks cs with
      | '\x7d' :: cs => some (.object [], cs)
      | cs =>
        match readFields fuel cs with
        | some (fields, cs) => some (.object fields, cs)
        | none => none
    | cs => readNumber cs

/-- Reads one or more items up to the closing bracket. -/
def readItems : (fuel : Nat) → List Char → Option (List Json × List Char)
  | 0, _ => none
  | fuel + 1, cs =>
    match readValue fuel cs with
    | none => none
    | some (item, cs) =>
      match skipBlanks cs with
      | ']' :: cs => some ([item], cs)
      | ',' :: cs =>
        match readItems fuel (skipBlanks cs) with
        | some (items, cs) => some (item :: items, cs)
        | none => none
      | _ => none

/-- Reads one or more fields up to the closing brace. -/
def readFields : (fuel : Nat) → List Char → Option (List (String × Json) × List Char)
  | fuel + 1, '"' :: cs =>
    match readString none cs with
    | none => none
    | some (name, cs) =>
      match skipBlanks cs with
      | ':' :: cs =>
        match readValue fuel (skipBlanks cs) with
        | none => none
        | some (value, cs) =>
          match skipBlanks cs with
          | '\x7d' :: cs => some ([(String.ofList name, value)], cs)
          | ',' :: cs =>
            match readFields fuel (skipBlanks cs) with
            | some (fields, cs) => some ((String.ofList name, value) :: fields, cs)
            | none => none
          | _ => none
      | _ => none
  | _, _ => none

end

/-- The value that a whole text denotes. Reading a value takes at most two steps
for each character, so the fuel does not run out. -/
def ofChars? (cs : List Char) : Option Json :=
  match readValue (2 * cs.length + 1) (skipBlanks cs) with
  | some (j, rest) => if skipBlanks rest = [] then some j else none
  | none => none

/-- The value that a whole string denotes. -/
def ofText? (s : String) : Option Json := ofChars? s.toList

end SnmpSet.Json
