import SnmpSet.Toml.Basic

/-!
# Dates and times in configuration files

A date names a day of the calendar. A time goes to the second or further, and
its minute may have a leap second. Both together may give the offset from
universal time.
-/

namespace SnmpSet.Toml

/-- The number of two digits, if it is in a range. -/
def twoDigits? (low high : Nat) (tens ones : Char) : Option Nat :=
  if tens.isDigit ∧ ones.isDigit then
    let n := Nat.ofDigitChars 10 [tens, ones] 0
    if low ≤ n ∧ n ≤ high then some n else none
  else none

/-- A year with a 29th of February. -/
def isLeapYear (year : Nat) : Bool := year % 4 = 0 && (year % 100 ≠ 0 || year % 400 = 0)

/-- The number of days in a month. -/
def daysIn (year month : Nat) : Nat :=
  if month = 2 then (if isLeapYear year then 29 else 28)
  else if month ∈ [4, 6, 9, 11] then 30
  else 31

/-- Gives the text after a date. -/
def afterDate : List Char → Option (List Char)
  | a :: b :: c :: d :: '-' :: m :: m' :: '-' :: e :: e' :: rest =>
    if [a, b, c, d].all Char.isDigit then do
      let month ← twoDigits? 1 12 m m'
      let _ ← twoDigits? 1 (daysIn (Nat.ofDigitChars 10 [a, b, c, d] 0) month) e e'
      return rest
    else none
  | _ => none

/-- Gives the text after a fraction of a second, which may be missing. -/
def afterSecondFraction : List Char → List Char
  | '.' :: c :: cs => if c.isDigit then cs.dropWhile Char.isDigit else '.' :: c :: cs
  | cs => cs

/-- Gives the text after a time. -/
def afterTime : List Char → Option (List Char)
  | h :: h' :: ':' :: m :: m' :: ':' :: s :: s' :: rest => do
    let _ ← twoDigits? 0 23 h h'
    let _ ← twoDigits? 0 59 m m'
    let _ ← twoDigits? 0 60 s s'
    return afterSecondFraction rest
  | _ => none

/-- Gives the text after an offset from universal time, which may be missing. -/
def afterOffset : List Char → Option (List Char)
  | 'Z' :: rest | 'z' :: rest => some rest
  | sign :: h :: h' :: ':' :: m :: m' :: rest =>
    if sign = '+' ∨ sign = '-' then do
      let _ ← twoDigits? 0 23 h h'
      let _ ← twoDigits? 0 59 m m'
      return rest
    else some (sign :: h :: h' :: ':' :: m :: m' :: rest)
  | rest => some rest

/-- Gives the text after what may follow a date: a separator, a time and perhaps an
offset. A blank that no time follows is left alone. -/
def afterDateTail : List Char → Option (List Char)
  | c :: cs =>
    if c = 'T' ∨ c = 't' ∨ c = ' ' then
      match afterTime cs with
      | some rest => afterOffset rest
      | none => some (c :: cs)
    else some (c :: cs)
  | [] => some []

/-- The text starts like a date or a time, and so can be nothing else. -/
def startsDateTime : List Char → Bool
  | a :: b :: ':' :: _ => a.isDigit && b.isDigit
  | a :: b :: c :: d :: '-' :: _ => [a, b, c, d].all Char.isDigit
  | _ => false

/-- Reads a date, a time or both. -/
def readDateTime (cs : List Char) : Option (Toml × List Char) := do
  let rest ← match afterTime cs with
    | some rest => some rest
    | none => (afterDate cs).bind afterDateTail
  return (.dateTime (cs.take (cs.length - rest.length)), rest)

end SnmpSet.Toml
