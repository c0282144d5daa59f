import SnmpSet.Oid.Dotted
import SnmpSet.Text.Hex
import SnmpSet.Value.Basic

/-!
# How values are shown

A value is shown to people by its content, in diagnostics by its structure, and
where it may be secret by its base type and size alone.
-/

namespace SnmpSet

/-- The name of a base type in messages. -/
def BaseType.text : BaseType → String
  | .integer => "INTEGER"
  | .timeTicks => "TimeTicks"
  | .octetString => "OCTET STRING"
  | .objectIdentifier => "OBJECT IDENTIFIER"

instance : ToString BaseType := ⟨BaseType.text⟩

/-- The name of a base type in diagnostics. -/
def BaseType.debugText : BaseType → String
  | .integer => "Integer"
  | .timeTicks => "TimeTicks"
  | .octetString => "OctetString"
  | .objectIdentifier => "ObjectIdentifier"

/-- A control character: below the space, or from DEL through U+009F. -/
def Text.isControl (c : Char) : Bool := c.toNat < 0x20 || (0x7f ≤ c.toNat && c.toNat ≤ 0x9f)

/-- Octets as text in quotes if they are UTF-8 without control characters, and
in hexadecimal otherwise. Quotes inside the text are left alone. -/
def Text.showOctets (bytes : List UInt8) : List Char :=
  match ofUtf8? bytes with
  | some cs => if cs.any isControl then hex bytes else '"' :: cs ++ ['"']
  | none => hex bytes

namespace Value

/-- The characters of a value's text. -/
def chars : Value → List Char
  | .integer n => Text.signedDecimal n.toInt
  | .timeTicks ticks => Text.decimal ticks.count.toNat ++ " ticks".toList
  | .octets bytes => Text.showOctets bytes
  | .objectId oid => oid.dotted

/-- A value as shown to people. -/
def text (v : Value) : String := String.ofList v.chars

instance : ToString Value := ⟨text⟩

/-- A value as shown where its content may be secret. -/
def redactedText : Value → String
  | .octets bytes => String.join ["<OCTET STRING, ", toString bytes.length, " bytes>"]
  | v => String.join ["<", v.baseType.text, ">"]

/-- A value's structure, for diagnostics. -/
def debugText : Value → String
  | .integer n => String.join ["Integer(", toString n.toInt, ")"]
  | .timeTicks ticks => String.join ["TimeTicks(TimeTicks(", toString ticks.count, "))"]
  | .octets bytes =>
    String.join ["OctetString([", ", ".intercalate (bytes.map fun b => toString b.toNat), "])"]
  | .objectId oid => String.join ["ObjectIdentifier(", oid.debugText, ")"]

end Value

end SnmpSet
