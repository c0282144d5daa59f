import SnmpSet.Config.Basic
import SnmpSet.Toml.Reader
import SnmpSet.Word

/-!
# Reading configurations

A configuration is a table of limits and a list of entries. A table may be
written as the array of its values in order. Unknown keys are refused at the top
and among the limits, and passed over in entries.
-/

namespace SnmpSet

namespace Toml

/-- The text of a string. -/
def string? : Toml → Option String
  | .string s => some s
  | _ => none

/-- A truth value. -/
def bool? : Toml → Option Bool
  | .bool b => some b
  | _ => none

/-- An integer of 32 bits. -/
def int32? : Toml → Option Int32
  | .integer n => Word.int32? n
  | _ => none

/-- A count. -/
def count? : Toml → Option Nat
  | .integer n => if 0 ≤ n then some n.toNat else none
  | _ => none

/-- An object identifier, as text. -/
def oid? (v : Toml) : Option Oid := v.string?.bind fun s => (Oid.ofText s).toOption

/-- The name of an algorithm, or an empty table under that name. -/
def algorithm? : Toml → Option AuthAlgorithm
  | .string name => AuthAlgorithm.ofName? name
  | .table [(name, .table [])] => AuthAlgorithm.ofName? name
  | _ => none

/-- What a text denotes as a document: the fields at its top, if it is one. -/
abbrev DocumentReader := String → Option (List (String × Toml))

/-- The fields of a record. -/
inductive Record where
  /-- By name, in a table. -/
  | named (fields : List (String × Toml))
  /-- By position, in an array. -/
  | listed (items : List Toml)

namespace Record

/-- A field, given its position in a list and its name in a table. -/
def field? (r : Record) (position : Nat) (name : String) : Option Toml :=
  match r with
  | .named fields => lookup? name fields
  | .listed items => items[position]?

/-- A field that has to be there. -/
def required {α : Type} (r : Record) (position : Nat) (name : String) (read : Toml → Option α) :
    Option α :=
  (r.field? position name).bind read

/-- A field that may be missing. -/
def optional {α : Type} (r : Record) (position : Nat) (name : String) (read : Toml → Option α) :
    Option (Option α) :=
  match r.field? position name with
  | none => some none
  | some v => (read v).map some

/-- A field that may be missing and then has a value of its own. -/
def orElse {α : Type} (r : Record) (position : Nat) (name : String) (read : Toml → Option α)
    (default : α) : Option α :=
  (r.optional position name read).map fun a => a.getD default

/-- A list has no more fields than the record. -/
def fits (r : Record) (size : Nat) : Bool :=
  match r with
  | .named _ => true
  | .listed items => items.length ≤ size

end Record

end Toml

open Toml

namespace ObjectEntry

/-- The entry of a plain object. -/
def readPlain (r : Record) : Option ObjectEntry := do
  let oid ← r.required 0 "oid" oid?
  let integer ← r.optional 1 "integer" int32?
  let string ← r.optional 2 "string" string?
  let minLength ← r.optional 3 "min_length" count?
  let maxLength ← r.optional 4 "max_length" count?
  let displayString ← r.orElse 5 "display_string" bool? false
  let min ← r.optional 6 "min" int32?
  let max ← r.optional 7 "max" int32?
  if r.fits 8 then
    some ⟨oid, .plain { integer, string, minLength, maxLength, displayString, min, max }⟩
  else none

/-- The entry of a counter. -/
def readTestAndIncr (r : Record) : Option ObjectEntry := do
  let oid ← r.required 0 "oid" oid?
  let initial ← r.orElse 1 "initial" int32? 0
  if r.fits 2 then some ⟨oid, .testAndIncr initial⟩ else none

/-- The entry of a time stamp. -/
def readTimeStamp (r : Record) : Option ObjectEntry := do
  let oid ← r.required 0 "oid" oid?
  if r.fits 1 then some ⟨oid, .timeStamp⟩ else none

/-- The entry of a key. -/
def readKeyChange (r : Record) : Option ObjectEntry := do
  let oid ← r.required 0 "oid" oid?
  let algorithm ← r.required 1 "protocol" algorithm?
  let rowIndex ← r.required 2 "row_index" oid?
  let key ← r.required 3 "key" string?
  let own ← r.orElse 4 "own" bool? false
  let readable ← r.orElse 5 "readable" bool? true
  if r.fits 6 then some ⟨oid, .keyChange { algorithm, rowIndex, key, own, readable }⟩ else none

/-- The entry of an object of a kind. -/
def ofRecord? (kind : String) (r : Record) : Option ObjectEntry :=
  if kind = "plain" then readPlain r
  else if kind = "test_and_incr" then readTestAndIncr r
  else if kind = "time_stamp" then readTimeStamp r
  else if kind = "key_change" then readKeyChange r
  else none

/-- The entry that a value stands for. In an array the kind comes first. -/
def ofToml? : Toml → Option ObjectEntry
  | .table fields => do
    let kind ← (lookup? "kind" fields).bind string?
    ofRecord? kind (.named fields)
  | .array (kind :: items) => do
    let kind ← kind.string?
    ofRecord? kind (.listed items)
  | _ => none

end ObjectEntry

namespace AgentConfig

/-- All keys of a table are among the given ones. -/
def onlyKeys (keys : List String) (fields : List (String × Toml)) : Bool :=
  fields.all fun field => keys.contains field.1

/-- The limit on bindings. An array may hold more than the limit. -/
def maxBindingsOf? : Toml → Option Nat
  | .table fields =>
    if onlyKeys ["max_bindings"] fields then
      (Record.named fields).orElse 0 "max_bindings" count? Agent.defaultMaxBindings
    else none
  | .array items =>
    (Record.listed items).orElse 0 "max_bindings" count? Agent.defaultMaxBindings
  | _ => none

/-- The entries of a list. -/
def objectsOf? : Toml → Option (List ObjectEntry)
  | .array items => items.mapM ObjectEntry.ofToml?
  | _ => none

/-- The configuration that the fields of a document stand for. -/
def ofFields? (fields : List (String × Toml)) : Option AgentConfig :=
  if onlyKeys ["engine", "objects"] fields then do
    let r := Record.named fields
    let maxBindings ← r.orElse 0 "engine" maxBindingsOf? Agent.defaultMaxBindings
    let objects ← r.orElse 1 "objects" objectsOf? []
    return { maxBindings, objects }
  else none

/-- The configuration that a text denotes to a reader of documents. -/
def readBy? (reader : DocumentReader) (s : String) : Option AgentConfig :=
  (reader s).bind ofFields?

/-- The configuration that a document denotes. -/
def ofText? (s : String) : Option AgentConfig := readBy? Toml.ofText? s

end AgentConfig

end SnmpSet
