import SnmpSet.Json.Codec

/-!
# The configuration of an agent

A configuration limits the requests and lists the objects that the agent starts
with. What an object needs to know depends on its kind.
-/

namespace SnmpSet

/-- The settings of a plain object: its first value and the bounds on later ones. -/
structure PlainSettings where
  integer : Option Int32
  string : Option String
  minLength : Option Nat
  maxLength : Option Nat
  displayString : Bool
  min : Option Int32
  max : Option Int32
  deriving DecidableEq

/-- The settings of a key. -/
structure KeySettings where
  algorithm : AuthAlgorithm
  rowIndex : Oid
  /-- The first key, in hexadecimal. -/
  key : String
  /-- Only the user that the row belongs to may change the key. -/
  own : Bool
  readable : Bool
  deriving DecidableEq

/-- The settings of an object, by kind. -/
inductive ObjectSettings where
  | plain (settings : PlainSettings)
  | testAndIncr (initial : Int32)
  | timeStamp
  | keyChange (settings : KeySettings)
  deriving DecidableEq

/-- The entry of one object. -/
structure ObjectEntry where
  oid : Oid
  settings : ObjectSettings
  deriving DecidableEq

/-- A whole configuration. Entries keep their order. -/
structure AgentConfig where
  maxBindings : Nat
  objects : List ObjectEntry
  deriving DecidableEq

/-- A value that may be missing as JSON. -/
def Json.optional {α : Type} (toJson : α → Json) : Option α → Json
  | none => .null
  | some a => toJson a

/-- The fields that a kind of object adds to its entry. -/
def ObjectSettings.jsonFields : ObjectSettings → List (String × Json)
  | .plain s =>
    [("integer", .optional (fun n => .integer n.toInt) s.integer),
      ("string", .optional .string s.string),
      ("min_length", .optional (fun n => .integer n) s.minLength),
      ("max_length", .optional (fun n => .integer n) s.maxLength),
      ("display_string", .bool s.displayString),
      ("min", .optional (fun n => .integer n.toInt) s.min),
      ("max", .optional (fun n => .integer n.toInt) s.max)]
  | .testAndIncr initial => [("initial", .integer initial.toInt)]
  | .timeStamp => []
  | .keyChange s =>
    [("protocol", s.algorithm.toJson), ("row_index", s.rowIndex.toJson), ("key", .string s.key),
      ("own", .bool s.own), ("readable", .bool s.readable)]

/-- The name of an entry's kind. Keys of both kinds share one. -/
def ObjectSettings.kindName : ObjectSettings → String
  | .plain _ => "plain"
  | .testAndIncr _ => "test_and_incr"
  | .timeStamp => "time_stamp"
  | .keyChange _ => "key_change"

/-- An entry as JSON. -/
def ObjectEntry.toJson (c : ObjectEntry) : Json :=
  .object (("kind", .string c.settings.kindName) :: ("oid", c.oid.toJson) ::
    c.settings.jsonFields)

/-- A configuration as JSON. -/
def AgentConfig.toJson (c : AgentConfig) : Json :=
  .object
    [("engine", .object [("max_bindings", .integer c.maxBindings)]),
      ("objects", .array (c.objects.map ObjectEntry.toJson))]

end SnmpSet
