import SnmpSet.Text.CodePoint
import SnmpSet.Toml.Basic

/-!
# Strings in configuration files

A string is basic, with escapes, or literal, without. Either kind stands between
single quotes on one line, or between triple quotes on any number of lines. One
or two quotes inside triple quotes are text, also right before the closing ones.
The readers start after the opening quotes and read up to the closing ones.
-/

namespace SnmpSet.Toml

/-- The character that a one-letter escape stands for. -/
def unescape? (c : Char) : Option Char :=
  if c = '"' ∨ c = '\\' then some c
  else if c = 'b' then some '\x08'
  else if c = 't' then some '\t'
  else if c = 'n' then some '\n'
  else if c = 'f' then some '\x0c'
  else if c = 'r' then some '\r'
  else none

/-- The character that hexadecimal digits name. -/
def named? (digits : List Char) : Option Char :=
  (Text.readHexNumber digits).bind Text.ofCodePoint?

/-- How a reader stands to a backslash that ends a line. -/
inductive Fold where
  /-- Text counts. -/
  | off
  /-- A backslash and perhaps blanks were read, and the line has to end. -/
  | atLineEnd
  /-- The line has ended: blanks and line ends do not count. -/
  | on
  deriving DecidableEq

/-- Reads a basic string. -/
def readBasic (manyLines : Bool) (fold : Fold) : List Char → Option (List Char × List Char)
  | [] => none
  | c :: cs =>
    if fold = .atLineEnd then
      if isSpace c then readBasic manyLines .atLineEnd cs
      else if c = '\n' then readBasic manyLines .on cs
      else none
    else if fold = .on ∧ (isSpace c ∨ c = '\n') then readBasic manyLines .on cs
    else if c = '"' then
      if manyLines then
        match cs with
        | '"' :: '"' :: '"' :: '"' :: cs => some (['"', '"'], cs)
        | '"' :: '"' :: '"' :: cs => some (['"'], cs)
        | '"' :: '"' :: cs => some ([], cs)
        | _ => Text.startWith? (some '"') (readBasic manyLines .off cs)
      else some ([], cs)
    else if c = '\\' then
      match cs with
      | 'u' :: a :: b :: c :: d :: cs =>
        Text.startWith? (named? [a, b, c, d]) (readBasic manyLines .off cs)
      | 'U' :: a :: b :: c :: d :: e :: f :: g :: h :: cs =>
        Text.startWith? (named? [a, b, c, d, e, f, g, h]) (readBasic manyLines .off cs)
      | e :: cs =>
        if manyLines ∧ isSpace e then readBasic manyLines .atLineEnd cs
        else if manyLines ∧ e = '\n' then readBasic manyLines .on cs
        else Text.startWith? (unescape? e) (readBasic manyLines .off cs)
      | [] => none
    else if isTextChar c ∨ (manyLines ∧ c = '\n') then
      Text.startWith? (some c) (readBasic manyLines .off cs)
    else none

/-- Reads a literal string. -/
def readLiteral (manyLines : Bool) : List Char → Option (List Char × List Char)
  | [] => none
  | c :: cs =>
    if c = '\x27' then
      if manyLines then
        match cs with
        | '\x27' :: '\x27' :: '\x27' :: '\x27' :: cs => some (['\x27', '\x27'], cs)
        | '\x27' :: '\x27' :: '\x27' :: cs => some (['\x27'], cs)
        | '\x27' :: '\x27' :: cs => some ([], cs)
        | _ => Text.startWith? (some '\x27') (readLiteral manyLines cs)
      else some ([], cs)
    else if isTextChar c ∨ (manyLines ∧ c = '\n') then
      Text.startWith? (some c) (readLiteral manyLines cs)
    else none

/-- A text without a line end right at its start. -/
def dropLineEnd : List Char → List Char
  | '\n' :: cs => cs
  | cs => cs

/-- Reads a string on one line with its quotes. -/
def readLineString : List Char → Option (List Char × List Char)
  | '"' :: cs => readBasic false .off cs
  | '\x27' :: cs => readLiteral false cs
  | _ => none

/-- Reads a string with its quotes. A line end right after triple quotes is not
part of the string. -/
def readString : List Char → Option (List Char × List Char)
  | '"' :: '"' :: '"' :: cs => readBasic true .off (dropLineEnd cs)
  | '\x27' :: '\x27' :: '\x27' :: cs => readLiteral true (dropLineEnd cs)
  | cs => readLineString cs

end SnmpSet.Toml
