import SnmpSet.Text.Utf8
import SnmpSet.TimeStamp

/-!
# Capability statements

The agent keeps a table of the capability statements it implements. A row is
indexed by a number that is handed out in ascending order and never again, so
that an index names the same statement for good. The table knows when it last
changed.
-/

namespace SnmpSet

/-- One capability statement. -/
structure Capability where
  index : Oid
  capability : Oid
  description : String
  /-- The reading of the clock when the statement was added. -/
  addedAt : TimeTicks
  deriving DecidableEq

namespace Capability

/-- The column of the statement's identifier. -/
def capabilityColumn : UInt32 := 2

/-- The column of the description. -/
def descriptionColumn : UInt32 := 3

/-- The column of the reading when the statement was added. -/
def addedAtColumn : UInt32 := 4

/-- A statement as a row of the table. -/
def row (c : Capability) : ConceptualRow :=
  ConceptualRow.empty c.index
    |>.put capabilityColumn (.objectId c.capability)
    |>.put descriptionColumn (.octets (Text.octetsOf c.description))
    |>.put addedAtColumn (.timeTicks c.addedAt)

end Capability

/-- The statements of an agent. -/
structure CapabilityTable where
  statements : SortedMap Oid Capability
  /-- The reading at the latest change, zero if there was none. -/
  changedAt : TimeTicks
  /-- The next number to hand out, unless all of them have been. -/
  nextNumber : Option UInt32
  /-- The clock that changes are timed by. -/
  clock : Option Clock

/-- The wording of the refusal to add a statement once all numbers are handed out. -/
def CapabilityTable.exhausted : String := "capability indexes exhausted"

namespace CapabilityTable

/-- No statements. Numbers start at one. -/
def create (clock : Option Clock) : CapabilityTable :=
  { statements := .empty, changedAt := ⟨0⟩, nextNumber := some 1, clock }

/-- The present reading, zero without a clock. -/
def now (t : CapabilityTable) (readings : Readings) : TimeTicks :=
  match t.clock with
  | some source => readings source
  | none => ⟨0⟩

/-- The number after another, unless that is the largest. -/
def following (n : UInt32) : Option UInt32 :=
  if n.toNat + 1 < UInt32.size then some (n + 1) else none

/-- Adds a statement under the next number, if there is one. -/
def add (t : CapabilityTable) (readings : Readings) (capability : Oid)
    (description : String) : Option (Oid × CapabilityTable) :=
  match t.nextNumber with
  | none => none
  | some n =>
    let index : Oid := ⟨[n]⟩
    let now := t.now readings
    let statement := { index, capability, description, addedAt := now }
    some (index,
      { t with
        statements := t.statements.insert index statement
        changedAt := now
        nextNumber := following n })

/-- Removes the statement of an index and hands it out. Without one nothing changes. -/
def remove (t : CapabilityTable) (readings : Readings) (index : Oid) :
    Option Capability × CapabilityTable :=
  match t.statements.get? index with
  | none => (none, t)
  | some statement =>
    (some statement, { t with statements := t.statements.erase index, changedAt := t.now readings })

/-- The statement of an index. -/
def get? (t : CapabilityTable) (index : Oid) : Option Capability := t.statements.get? index

/-- The statements in the order of their indexes. -/
def all (t : CapabilityTable) : List Capability := t.statements.values

/-- The statements as rows of the table. -/
def rows (t : CapabilityTable) : List ConceptualRow := t.all.map Capability.row

/-- The number of statements. -/
def size (t : CapabilityTable) : Nat := t.statements.size

/-- There are no statements. -/
def isEmpty (t : CapabilityTable) : Bool := t.statements.isEmpty

end CapabilityTable

end SnmpSet
