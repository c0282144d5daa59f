import SnmpSet.Oid.Basic

/-!
# Values of managed objects

A value belongs to one of four base types. Integers are 32-bit and signed; a
tick is one hundredth of a second, counted modulo `2 ^ 32`.
-/

namespace SnmpSet

/-- A count of hundredths of a second. -/
@[ext] structure TimeTicks where
  /-- The count, modulo `2 ^ 32`. -/
  count : UInt32
  deriving DecidableEq, Inhabited

/-- The ticks in a span of whole seconds and nanoseconds. Part of a tick is
dropped, and so are ticks past `2 ^ 32`. -/
def TimeTicks.ofSpan (seconds nanoseconds : Nat) : TimeTicks :=
  ⟨UInt32.ofNat ((seconds * 1000 + nanoseconds / 1000000) / 10)⟩

/-- The base types that a value can have. -/
inductive BaseType where
  | integer
  | timeTicks
  | octetString
  | objectIdentifier
  deriving DecidableEq

/-- A value that an object can hold or a request can carry. -/
inductive Value where
  | integer (n : Int32)
  | timeTicks (ticks : TimeTicks)
  | octets (bytes : List UInt8)
  | objectId (oid : Oid)
  deriving DecidableEq

namespace Value

instance : Inhabited Value := ⟨.integer 0⟩

/-- The base type of a value. -/
def baseType : Value → BaseType
  | .integer _ => .integer
  | .timeTicks _ => .timeTicks
  | .octets _ => .octetString
  | .objectId _ => .objectIdentifier

/-- The integer that a value holds. -/
def integer? : Value → Option Int32
  | .integer n => some n
  | _ => none

/-- The ticks that a value holds. -/
def timeTicks? : Value → Option TimeTicks
  | .timeTicks ticks => some ticks
  | _ => none

/-- The octets that a value holds. -/
def octets? : Value → Option (List UInt8)
  | .octets bytes => some bytes
  | _ => none

/-- The object identifier that a value holds. -/
def objectId? : Value → Option Oid
  | .objectId oid => some oid
  | _ => none

end Value

end SnmpSet
