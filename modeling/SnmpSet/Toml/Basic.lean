/-!
# Configuration values

Configuration files are written in TOML. A value is a scalar, an array or a
table; tables keep the order in which their keys were first mentioned.
-/

namespace SnmpSet

/-- A TOML value. -/
inductive Toml where
  | string (s : String)
  | integer (n : Int)
  /-- A number with a fraction or an exponent, or a special number: its numeral. -/
  | float (numeral : List Char)
  | bool (b : Bool)
  /-- A date, a time or both, as written. -/
  | dateTime (text : List Char)
  | array (items : List Toml)
  | table (fields : List (String × Toml))

namespace Toml

/-- The value beside a key. -/
def lookup? (key : String) (fields : List (String × Toml)) : Option Toml :=
  (fields.find? fun field => field.1 = key).map Prod.snd

/-- A blank inside a line. -/
def isSpace (c : Char) : Bool := c = ' ' || c = '\t'

/-- A line without the blanks that it starts with. -/
def skipSpace (cs : List Char) : List Char := cs.dropWhile isSpace

/-- A character that comments and strings can hold as it is: no control character
other than the tab. -/
def isTextChar (c : Char) : Bool := c = '\t' || (0x20 ≤ c.toNat && c ≠ '\x7f')

end Toml

end SnmpSet
