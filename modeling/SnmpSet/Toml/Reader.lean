import SnmpSet.Toml.DateTime
import SnmpSet.Toml.Number
import SnmpSet.Toml.Strings
import SnmpSet.Toml.Table

/-!
# Reading configuration files

A reader takes characters and answers with what it read and the characters
after it, or not at all. A document is a list of lines: pairs, headers, and
lines without either. A line ends with a line feed, which a carriage return may
precede, or with the document.
-/

namespace SnmpSet.Toml

/-- A text with plain line feeds for its line ends. -/
def plainLineEnds : List Char → List Char
  | '\r' :: '\n' :: cs => '\n' :: plainLineEnds cs
  | c :: cs => c :: plainLineEnds cs
  | [] => []

/-- A text without the comment that it starts with, if it does. -/
def skipComment : List Char → List Char
  | '#' :: cs => cs.dropWhile isTextChar
  | cs => cs

/-- Gives the text after the end of a line. Blanks and a comment may come first. -/
def readLineEnd (cs : List Char) : Option (List Char) :=
  match skipComment (skipSpace cs) with
  | [] => some []
  | '\n' :: cs => some cs
  | _ => none

/-- Skips blanks, comments and line ends. Each round but the last takes at least one
character, so `fuel` at the length of the text never runs out. -/
def skipLines : (fuel : Nat) → List Char → List Char
  | 0, cs => cs
  | fuel + 1, cs =>
    match skipSpace cs with
    | '\n' :: cs => skipLines fuel cs
    | '#' :: cs => skipLines fuel (cs.dropWhile isTextChar)
    | cs => cs

/-- A text without the blanks, comments and line ends that it starts with. -/
def skipGap (cs : List Char) : List Char := skipLines cs.length cs

/-- A character of a key without quotes. -/
def isBareKeyChar (c : Char) : Bool := c.isAlphanum || c = '-' || c = '_'

/-- Reads one key. -/
def readKey (cs : List Char) : Option (String × List Char) :=
  match readLineString cs with
  | some (key, rest) => some (String.ofList key, rest)
  | none =>
    let key := cs.takeWhile isBareKeyChar
    if key = [] then none else some (String.ofList key, cs.dropWhile isBareKeyChar)

/-- The largest number of keys in a dotted key. -/
def keyPathLimit : Nat := 79

/-- The deepest that arrays and inline tables nest. -/
def nestingLimit : Nat := 79

/-- Reads a dotted key of at most `limit` keys, with blanks around each key. -/
def readKeyPath : (limit : Nat) → List Char → Option (KeyPath × List Char)
  | 0, _ => none
  | limit + 1, cs => do
    let (key, cs) ← readKey (skipSpace cs)
    match skipSpace cs with
    | '.' :: cs =>
      let (path, cs) ← readKeyPath limit cs
      return (⟨key :: path.through, path.last⟩, cs)
    | cs => return (⟨[], key⟩, cs)

/-- Reads a pair with a reader for its value. -/
def readPair (readValue : List Char → Option (Toml × List Char)) (cs : List Char) :
    Option (Pair × List Char) := do
  let (key, cs) ← readKeyPath keyPathLimit cs
  match cs with
  | '=' :: cs =>
    let (value, cs) ← readValue (skipSpace cs)
    return (⟨key, value⟩, cs)
  | _ => none

/-- Reads the items of an array up to the closing bracket. A comma may follow the
last item. -/
def readItems (readValue : List Char → Option (Toml × List Char)) :
    (fuel : Nat) → List Char → Option (List Toml × List Char)
  | 0, _ => none
  | fuel + 1, cs =>
    match skipGap cs with
    | ']' :: cs => some ([], cs)
    | cs => do
      let (item, cs) ← readValue cs
      match skipGap cs with
      | ']' :: cs => return ([item], cs)
      | ',' :: cs =>
        let (items, cs) ← readItems readValue fuel cs
        return (item :: items, cs)
      | _ => none

/-- Reads one or more pairs of an inline table up to the closing brace. -/
def readPairs (readValue : List Char → Option (Toml × List Char)) :
    (fuel : Nat) → List Char → Option (List Pair × List Char)
  | 0, _ => none
  | fuel + 1, cs => do
    let (pair, cs) ← readPair readValue cs
    match skipSpace cs with
    | '\x7d' :: cs => return ([pair], cs)
    | ',' :: cs =>
      let (pairs, cs) ← readPairs readValue fuel cs
      return (pair :: pairs, cs)
    | _ => none

/-- Reads the rest of an inline table after the opening brace. -/
def readInlineTable (readValue : List Char → Option (Toml × List Char)) (cs : List Char) :
    Option (Toml × List Char) :=
  match skipSpace cs with
  | '\x7d' :: cs => (ofPairs? []).map (·, cs)
  | cs => do
    let (pairs, cs) ← readPairs readValue cs.length cs
    let table ← ofPairs? pairs
    return (table, cs)

/-- Reads a value that is neither an array nor an inline table. -/
def readScalar (cs : List Char) : Option (Toml × List Char) :=
  match cs with
  | 't' :: 'r' :: 'u' :: 'e' :: cs => some (.bool true, cs)
  | 'f' :: 'a' :: 'l' :: 's' :: 'e' :: cs => some (.bool false, cs)
  | '"' :: _ | '\x27' :: _ => (readString cs).map fun (s, cs) => (.string (String.ofList s), cs)
  | _ => if startsDateTime cs then readDateTime cs else readNumber cs

/-- Reads a value in which arrays and inline tables nest at most `depth` deep. -/
def readValue : (depth : Nat) → List Char → Option (Toml × List Char)
  | depth + 1, '[' :: cs =>
    (readItems (readValue depth) (cs.length + 1) cs).map fun (items, cs) => (.array items, cs)
  | depth + 1, '\x7b' :: cs => readInlineTable (readValue depth) cs
  | _, cs => readScalar cs

/-- What a line of a document says. -/
inductive Line where
  | pair (pair : Pair)
  | header (header : Header)

/-- Reads the part of a line that says something. -/
def readStatement : List Char → Option (Line × List Char)
  | '[' :: '[' :: cs => do
    let (key, cs) ← readKeyPath keyPathLimit cs
    match cs with
    | ']' :: ']' :: cs => return (.header (.repeated key), cs)
    | _ => none
  | '[' :: cs => do
    let (key, cs) ← readKeyPath keyPathLimit cs
    match cs with
    | ']' :: cs => return (.header (.single key), cs)
    | _ => none
  | cs => (readPair (readValue nestingLimit) cs).map fun (pair, cs) => (.pair pair, cs)

/-- Reads lines to the end of the document. Each takes at least one character, so
`fuel` past the length of the text never runs out. -/
def readLines : (fuel : Nat) → List Char → Option (List Line)
  | 0, _ => none
  | fuel + 1, cs =>
    match skipGap cs with
    | [] => some []
    | cs => do
      let (line, cs) ← readStatement cs
      let cs ← readLineEnd cs
      let lines ← readLines fuel cs
      return line :: lines

/-- Splits lines into the pairs before the first header and the sections. -/
def sections : List Line → List Pair × List TableSection
  | [] => ([], [])
  | .pair pair :: lines => (pair :: (sections lines).1, (sections lines).2)
  | .header header :: lines => ([], ⟨header, (sections lines).1⟩ :: (sections lines).2)

/-- The table that the lines of a document build. -/
def ofLines? (lines : List Line) : Option (List (String × Toml)) := do
  let fields ← Fields.addPairs [] (sections lines).1
  let fields ← (sections lines).2.foldlM Fields.addSection fields
  return finishFields fields

/-- A text without a leading byte order mark. -/
def dropByteOrderMark : List Char → List Char
  | '\ufeff' :: cs => cs
  | cs => cs

/-- The table that a document denotes. -/
def ofText? (s : String) : Option (List (String × Toml)) := do
  let cs := plainLineEnds (dropByteOrderMark s.toList)
  let lines ← readLines (cs.length + 1) cs
  ofLines? lines

end SnmpSet.Toml
