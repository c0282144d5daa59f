import SnmpSet.Fault
import SnmpSet.Refusal

/-!
# One binding's share of a batch

A pending write carries a proposed value through the phases of a batch. It keeps
the value that the object held before, so that a commit can be undone, and the
value to report. A step that the phases do not allow is a fault and changes
nothing.
-/

namespace SnmpSet

/-- The progress of one binding in a batch. -/
structure PendingWrite where
  oid : Oid
  /-- The value that the request asks for. -/
  proposed : Value
  /-- The value that the object held before the batch. -/
  prior : Value
  /-- The value that was stored at commit, until the end. -/
  stored : Option Value
  /-- The value to report after a commit. -/
  reported : Option Value
  phase : Phase
  /-- Why the binding was refused. -/
  refusal : Option Refusal
  /-- Diagnostics must not show the values. -/
  hidden : Bool
  deriving DecidableEq

namespace PendingWrite

/-- A write at the start of a batch. -/
def start (oid : Oid) (proposed prior : Value) : PendingWrite :=
  { oid, proposed, prior, stored := none, reported := none, phase := .created, refusal := none,
    hidden := false }

/-- The write with its values hidden from diagnostics, or shown again. -/
def hide (w : PendingWrite) (on : Bool) : PendingWrite := { w with hidden := on }

/-- Moves on to another phase. -/
def moveTo (w : PendingWrite) (target : Phase) : Except Fault PendingWrite :=
  match w.phase.step target with
  | .ok () => .ok { w with phase := target }
  | .error e => .error (.ofStepError w.oid e)

/-- Records why the binding is refused. -/
def refuse (w : PendingWrite) (e : Refusal) : Except Fault PendingWrite :=
  (w.moveTo .failed).map fun w => { w with refusal := some e }

/-- Records what a commit stored and what to report. -/
def commit (w : PendingWrite) (stored reported : Value) : Except Fault PendingWrite :=
  (w.moveTo .committed).map fun w => { w with stored := some stored, reported := some reported }

/-- Ends the write from whatever phase it is in. -/
def finish (w : PendingWrite) : PendingWrite :=
  if w.phase = .cleaned then w else { w with stored := none, phase := .cleaned }

/-- A value as the write shows it in diagnostics. -/
def showValue (w : PendingWrite) (v : Value) : String :=
  Text.quoted (if w.hidden then v.redactedText else v.debugText)

/-- A value that may be missing, as the write shows it in diagnostics. -/
def showValue? (w : PendingWrite) : Option Value → String
  | none => "None"
  | some v => String.join ["Some(", w.showValue v, ")"]

/-- A write's structure, for diagnostics. -/
def debugText (w : PendingWrite) : String :=
  let refusal := match w.refusal with
    | none => "None"
    | some e => String.join ["Some(", e.debugText, ")"]
  String.join
    ["SubRequest \x7b oid: ", w.oid.debugText, ", proposed: ", w.showValue w.proposed,
      ", prior: ", w.showValue w.prior, ", applied: ", w.showValue? w.stored,
      ", response: ", w.showValue? w.reported, ", phase: ", w.phase.text, ", error: ", refusal,
      " \x7d"]

end PendingWrite

end SnmpSet
