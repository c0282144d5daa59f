import SnmpSet.Text.Decimal

/-!
# JSON values and their text

A value has one compact text without any blanks, and one indented text with a
line for each item and field. Characters below the space, the quote and the
backslash are escaped in strings; all others stand for themselves.
-/

namespace SnmpSet

/-- A JSON value. Fields keep their order. -/
inductive Json where
  | null
  | bool (b : Bool)
  /-- A whole number other than minus zero. -/
  | integer (n : Int)
  /-- A number written with a fraction or an exponent, or minus zero: its numeral. -/
  | numeral (text : List Char)
  | string (s : String)
  | array (items : List Json)
  | object (fields : List (String × Json))

namespace Json

/-- One character inside a string. -/
def escapeChar (c : Char) : List Char :=
  if c = '"' ∨ c = '\\' then ['\\', c]
  else if c = '\x08' then ['\\', 'b']
  else if c = '\x0c' then ['\\', 'f']
  else if c = '\n' then ['\\', 'n']
  else if c = '\r' then ['\\', 'r']
  else if c = '\t' then ['\\', 't']
  else if c.toNat < 0x20 then
    ['\\', 'u', '0', '0', Nat.digitChar (c.toNat / 16), Nat.digitChar (c.toNat % 16)]
  else [c]

/-- The characters of a string after its opening quote. -/
def stringChars (cs : List Char) : List Char := cs.flatMap escapeChar ++ ['"']

/-- A string in its quotes. -/
def quotedChars (s : String) : List Char := '"' :: stringChars s.toList

mutual

/-- The compact text of a value. -/
def chars : Json → List Char
  | .null => "null".toList
  | .bool true => "true".toList
  | .bool false => "false".toList
  | .integer n => Text.signedDecimal n
  | .numeral text => text
  | .string s => quotedChars s
  | .array [] => ['[', ']']
  | .array (item :: items) => '[' :: chars item ++ moreItems items
  | .object [] => ['\x7b', '\x7d']
  | .object ((name, value) :: fields) =>
    '\x7b' :: quotedChars name ++ ':' :: chars value ++ moreFields fields

/-- The items after one of an array, each after a comma, and the closing bracket. -/
def moreItems : List Json → List Char
  | [] => [']']
  | item :: items => ',' :: chars item ++ moreItems items

/-- The fields after one of an object, each after a comma, and the closing brace. -/
def moreFields : List (String × Json) → List Char
  | [] => ['\x7d']
  | (name, value) :: fields =>
    ',' :: quotedChars name ++ ':' :: chars value ++ moreFields fields

end

/-- The compact text of a value. -/
def text (j : Json) : String := String.ofList j.chars

/-- A new line that is indented by a number of levels. -/
def newLine (level : Nat) : List Char := '\n' :: List.replicate (2 * level) ' '

mutual

/-- The indented text of a value that stands at a level. -/
def indented (level : Nat) : Json → List Char
  | .array (item :: items) =>
    '[' :: newLine (level + 1) ++ indented (level + 1) item ++ moreItemLines level items
  | .object ((name, value) :: fields) =>
    '\x7b' :: newLine (level + 1) ++ quotedChars name ++ ':' :: ' ' ::
      indented (level + 1) value ++ moreFieldLines level fields
  | j => chars j

/-- The items after one of an array, each on a line of its own, and the closing
bracket. -/
def moreItemLines (level : Nat) : List Json → List Char
  | [] => newLine level ++ [']']
  | item :: items =>
    ',' :: newLine (level + 1) ++ indented (level + 1) item ++ moreItemLines level items

/-- The fields after one of an object, each on a line of its own, and the closing
brace. -/
def moreFieldLines (level : Nat) : List (String × Json) → List Char
  | [] => newLine level ++ ['\x7d']
  | (name, value) :: fields =>
    ',' :: newLine (level + 1) ++ quotedChars name ++ ':' :: ' ' ::
      indented (level + 1) value ++ moreFieldLines level fields

end

/-- The indented text of a value. -/
def indentedText (j : Json) : String := String.ofList (j.indented 0)

end Json

end SnmpSet
