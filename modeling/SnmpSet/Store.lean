import SnmpSet.ManagedObject
import SnmpSet.SortedMap

/-!
# The objects of an agent

A store holds at most one object at each address and lists its addresses in
ascending order. Every object has its own address, and stands there. A time stamp
is attached to a clock and set to its reading where it stands.
-/

namespace SnmpSet

/-- The registered objects by address. -/
structure Store where
  registered : SortedMap Oid ManagedObject
  /-- Each object stands at its own address. -/
  own_oid : ∀ entry ∈ registered.entries, entry.2.oid = entry.1

namespace Store

/-- The store without objects. -/
def empty : Store := ⟨.empty, fun _ hmem => absurd hmem List.not_mem_nil⟩

/-- The object at an address. -/
def object? (s : Store) (oid : Oid) : Option ManagedObject := s.registered.get? oid

/-- An address is in use. -/
def contains (s : Store) (oid : Oid) : Bool := s.registered.contains oid

/-- The addresses in use, in ascending order. -/
def addresses (s : Store) : List Oid := s.registered.keys

/-- The objects in the order of their addresses. -/
def objects (s : Store) : List ManagedObject := s.registered.values

/-- The number of objects. -/
def size (s : Store) : Nat := s.registered.size

/-- The store has no objects. -/
def isEmpty (s : Store) : Bool := s.registered.isEmpty

/-- The store with an object at its address, over any other object there. -/
def put (s : Store) (o : ManagedObject) : Store where
  registered := s.registered.insert o.oid o
  own_oid entry hmem := by
    rcases SortedMap.mem_insertEntry hmem with rfl | hold
    · rfl
    · exact s.own_oid entry hold

/-- Adds an object and hands out the one that it replaces. -/
def add (s : Store) (o : ManagedObject) : Store × Option ManagedObject :=
  (s.put o, s.object? o.oid)

/-- The store without the object at an address. -/
def erase (s : Store) (oid : Oid) : Store where
  registered := s.registered.erase oid
  own_oid entry hmem := s.own_oid entry (List.mem_filter.mp hmem).1

/-- Removes the object at an address and hands it out. -/
def remove (s : Store) (oid : Oid) : Store × Option ManagedObject := (s.erase oid, s.object? oid)

/-- What a read of an address answers. -/
def read (s : Store) (oid : Oid) : Except Refusal Value :=
  match s.object? oid with
  | some o => o.body.read
  | none => .error (.noAccess s!"no such object {oid}")

/-! ## Changes in place -/

/-- A change that is made to the objects of a store in place. What it changes and tells before
a fault stays. -/
abbrev Update := EStateM Fault (Watched Store)

/-- Changes the object at an address in place, if there is one. -/
def updateAt {α : Type} (oid : Oid) (update : ObjectBody.Update α) : Update (Option α) :=
  fun s =>
    match s.state.object? oid with
    | none => .ok none s
    | some o =>
      match update ⟨o.body, s.told⟩ with
      | .ok a w => .ok (some a) ⟨s.state.put ⟨oid, w.state⟩, w.told⟩
      | .error fault w => .error fault ⟨s.state.put ⟨oid, w.state⟩, w.told⟩

/-- Attaches the time stamp at an address to a clock. -/
def attachClock (oid : Oid) (clock : Clock) : Update (Option Unit) :=
  updateAt oid (ObjectBody.attachClock oid clock)

/-- Stores the present reading in the time stamp at an address. -/
def stampNow (oid : Oid) (readings : Readings) : Update (Option TimeTicks) :=
  updateAt oid (ObjectBody.stampNow oid readings)

end Store

end SnmpSet
