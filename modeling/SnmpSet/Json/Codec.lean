import SnmpSet.Access
import SnmpSet.Agent
import SnmpSet.CapabilityTable
import SnmpSet.Json.Reader
import SnmpSet.KeyChange.Algorithm
import SnmpSet.Phase
import SnmpSet.Refusal
import SnmpSet.Word

/-!
# Domain values as JSON

An object identifier is a string of dotted text. A value is an object whose one
field is named for the base type. A member of an enumeration is a string of its
name; when read, it may also be an object that has the name as its one field and
`null` beside it.
-/

namespace SnmpSet

/-- The name that an enumeration member is written as. -/
def Json.memberName? : Json → Option String
  | .string name => some name
  | .object [(name, .null)] => some name
  | _ => none

/-- The whole number that JSON stands for. -/
def Json.integer? : Json → Option Int
  | .integer n => some n
  | _ => none

namespace Oid

/-- An identifier as JSON. -/
def toJson (o : Oid) : Json := .string o.text

/-- The identifier that JSON stands for. -/
def ofJson? : Json → Option Oid
  | .string s => (ofText s).toOption
  | _ => none

end Oid

namespace Value

/-- A value as JSON. -/
def toJson : Value → Json
  | .integer n => .object [("integer", .integer n.toInt)]
  | .timeTicks ticks => .object [("time_ticks", .integer ticks.count.toNat)]
  | .octets bytes => .object [("octet_string", .array (bytes.map fun b => .integer b.toNat))]
  | .objectId oid => .object [("object_identifier", oid.toJson)]

/-- The value that a field of JSON stands for. -/
def ofField? (name : String) (j : Json) : Option Value :=
  if name = "integer" then (j.integer?.bind Word.int32?).map .integer
  else if name = "time_ticks" then
    (j.integer?.bind Word.uint32?).map fun count => .timeTicks ⟨count⟩
  else if name = "octet_string" then
    match j with
    | .array items => (items.mapM fun item : Json => item.integer?.bind Word.uint8?).map .octets
    | _ => none
  else if name = "object_identifier" then (Oid.ofJson? j).map .objectId
  else none

/-- The value that JSON stands for. -/
def ofJson? : Json → Option Value
  | .object [(name, j)] => ofField? name j
  | _ => none

/-- The value that JSON text stands for. -/
def ofJsonText? (s : String) : Option Value := (Json.ofText? s).bind ofJson?

end Value

/-- A base type as JSON. -/
def BaseType.toJson (t : BaseType) : Json := .string t.debugText

/-- The base type that JSON stands for. -/
def BaseType.ofJson? (j : Json) : Option BaseType :=
  j.memberName?.bind fun name =>
    [BaseType.integer, .timeTicks, .octetString, .objectIdentifier].find? fun t =>
      t.debugText = name

/-- A status as JSON. -/
def ErrorStatus.toJson (s : ErrorStatus) : Json := .string s.name

/-- The status that JSON stands for. -/
def ErrorStatus.ofJson? (j : Json) : Option ErrorStatus := j.memberName?.bind ofName?

/-- A security model as JSON. -/
def SecurityModel.toJson (m : SecurityModel) : Json := .string m.name

/-- The security model that JSON stands for. -/
def SecurityModel.ofJson? (j : Json) : Option SecurityModel := j.memberName?.bind ofName?

/-- A phase as JSON. -/
def Phase.toJson (p : Phase) : Json := .string p.text

/-- The phase that JSON stands for. -/
def Phase.ofJson? (j : Json) : Option Phase := j.memberName?.bind ofText?

/-- An algorithm as JSON. -/
def AuthAlgorithm.toJson (a : AuthAlgorithm) : Json := .string a.name

/-- A binding as JSON. -/
def VarBind.toJson (b : VarBind) : Json :=
  .object [("oid", b.oid.toJson), ("value", b.value.toJson)]

/-- A capability statement as JSON. -/
def Capability.toJson (e : Capability) : Json :=
  .object
    [("index", e.index.toJson), ("capability", e.capability.toJson),
      ("description", .string e.description), ("registered_at", .integer e.addedAt.count.toNat)]

/-- The answer to a SET request as JSON. -/
def Response.toJson (r : Response) : Json :=
  .object
    [("status", r.status.toJson), ("error_index", .integer r.errorIndex),
      ("bindings", .array (r.bindings.map VarBind.toJson))]

end SnmpSet
