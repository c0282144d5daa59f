import SnmpSet.Oid.Basic

/-!
# Octet strings inside a row index

A row of a table is addressed by an identifier built from the row's index
values. An octet string takes one sub-identifier for each octet. Unless it is
implied, which only the last component may be, its length comes first; a length
is recorded modulo `2 ^ 32`.
-/

namespace SnmpSet.Oid

/-- The sub-identifiers of a component that carries its length. -/
def octetComponent (octets : List UInt8) : List UInt32 :=
  UInt32.ofNat octets.length :: octets.map UInt8.toUInt32

/-- The identifier extended by an octet string. -/
def appendOctets (o : Oid) (octets : List UInt8) (implied : Bool) : Oid :=
  ⟨o.subIds ++ if implied then octets.map UInt8.toUInt32 else octetComponent octets⟩

/-- A sub-identifier that stands for one octet. -/
def readOctet (subId : UInt32) : Except OidDefect UInt8 :=
  if subId.toNat < 256 then .ok subId.toUInt8 else .error (.notOctet subId)

/-- The octet string of the length-carrying component at a position, with the
position just past it. -/
def octetsAt (o : Oid) (position : Nat) : Except OidDefect (List UInt8 × Nat) :=
  match o.subIds[position]? with
  | none => .error (.cutShort position)
  | some announced =>
    let stop := position + 1 + announced.toNat
    if stop ≤ o.length then
      ((o.subIds.drop (position + 1)).take announced.toNat).mapM readOctet |>.map (·, stop)
    else .error (.cutShort position)

/-- The components from a position to the end, with the error that stopped the
walk, if any. Each component takes at least one sub-identifier, so `fuel` at
the identifier's length never runs out. -/
def octetStringsFrom (o : Oid) : (fuel position : Nat) →
    List (List UInt8 × Nat) × Option OidDefect
  | 0, _ => ([], none)
  | fuel + 1, position =>
    if position < o.length then
      match octetsAt o position with
      | .error e => ([], some e)
      | .ok (octets, next) =>
        let (rest, failure) := octetStringsFrom o fuel next
        ((octets, next) :: rest, failure)
    else ([], none)

/-- All components from a position on. -/
def octetStrings (o : Oid) (position : Nat) : List (List UInt8 × Nat) × Option OidDefect :=
  octetStringsFrom o o.length position

end SnmpSet.Oid
