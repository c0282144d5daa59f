import SnmpSet.ConceptualRow
import SnmpSet.Fault

/-!
# Time stamps

A stamp takes its readings from a clock that belongs to somebody else and may be
attached late. Using a stamp without a clock is a fault.
-/

namespace SnmpSet

/-- A clock that stamps can be attached to. -/
structure Clock where
  id : Nat
  deriving DecidableEq

/-- What every clock reads at one moment. -/
abbrev Readings := Clock → TimeTicks

/-- A reading moved on by some ticks; it wraps around at `2 ^ 32`. -/
def TimeTicks.advance (t : TimeTicks) (ticks : UInt32) : TimeTicks := ⟨t.count + ticks⟩

/-- A change that is made to a row in place. What it changes before a fault stays changed. -/
abbrev ConceptualRow.Update := EStateM Fault ConceptualRow

/-- A stamp, with the clock it is attached to. -/
structure TimeStamp where
  clock : Option Clock
  deriving DecidableEq

namespace TimeStamp

/-- The stamp attached to a clock, in place of any other. -/
def attach (_ : TimeStamp) (clock : Clock) : TimeStamp := ⟨some clock⟩

/-- The stamp has a clock. -/
def hasClock (stamp : TimeStamp) : Bool := stamp.clock.isSome

/-- The present reading. A fault names the given object. -/
def now (stamp : TimeStamp) (readings : Readings) (oid : Oid) : Except Fault TimeTicks :=
  match stamp.clock with
  | some clock => .ok (readings clock)
  | none => .error (.unattached oid "time source")

/-- Writes the present reading into a column of a row of the given table. -/
def stampCell (stamp : TimeStamp) (readings : Readings) (entry : Oid) (column : UInt32) :
    ConceptualRow.Update TimeTicks := do
  let row ← get
  let ticks ← MonadExcept.ofExcept (stamp.now readings (row.address entry column))
  modify fun row => row.put column (.timeTicks ticks)
  return ticks

end TimeStamp

end SnmpSet
