import SnmpSet.KeyChange.Column

/-!
# Counters that serialise writers

A manager reads such a counter and proposes the value it read. The write is
accepted only if the counter still holds that value, and moves it on by one,
from the largest integer to zero.
-/

namespace SnmpSet.TestAndIncr

/-- The value after a given one. -/
def successor (current : Int32) : Int32 := if current = Int32.maxValue then 0 else current + 1

/-- Refuses a proposal that is not the stored value. -/
def prepare (stored proposed : Value) : Except Refusal Unit :=
  if stored = proposed then .ok ()
  else .error (.inconsistentValue s!"expected {stored}, got {proposed}")

/-- Refuses a proposal that is not an integer from zero on. -/
def check (proposed : Value) : Except Refusal Unit :=
  match proposed with
  | .integer n =>
    if 0 ≤ n then .ok () else .error (.wrongValue s!"{proposed} is not a non-negative integer")
  | _ => .error (.wrongValue s!"{proposed} is not a non-negative integer")

/-- Moves the counter on and reports the proposal. -/
def commit (stored proposed : Value) : Except WriteFailure Committed :=
  match stored with
  | .integer current => .ok ⟨.integer (successor current), proposed⟩
  | _ => .error (.refused (.commitFailed s!"counter holds {stored}"))

end SnmpSet.TestAndIncr
