import SnmpSet.Oid.Dotted
import SnmpSet.Phase
import SnmpSet.Text.Quoted

/-!
# Faults of the agent itself

A fault says that the agent was wired up wrongly or could not keep its own
guarantees. It is not a refusal and no response reports it.
-/

namespace SnmpSet

/-- A fault, with the object that it arose at. -/
inductive Fault where
  /-- An object was used without something that has to be attached to it. -/
  | unattached (oid : Oid) (missing : String)
  /-- A committed value could not be taken back. -/
  | notUndone (oid : Oid) (reason : String)
  /-- A binding was driven from one phase to another out of order. -/
  | outOfOrder (oid : Oid) (source target : Phase)
  deriving DecidableEq

namespace Fault

/-- The fault that a step error is, at an object. -/
def ofStepError (oid : Oid) (e : StepError) : Fault :=
  .outOfOrder oid e.source e.target

/-- The object that a fault arose at. -/
def oid : Fault → Oid
  | .unattached oid _ | .notUndone oid _ | .outOfOrder oid .. => oid

/-- The wording of a fault. -/
def message : Fault → String
  | .unattached oid missing =>
    String.join ["configuration fault at ", oid.text, ": no ", missing, " attached"]
  | .notUndone oid reason => String.join ["undo failed at ", oid.text, ": ", reason]
  | .outOfOrder oid source target =>
    String.join
      ["illegal phase transition at ", oid.text, ": ", source.text, " -> ", target.text]

/-- The kind of a fault, as diagnostics name it. -/
def kind : Fault → String
  | .unattached .. => "Configuration"
  | .notUndone .. => "UndoFailed"
  | .outOfOrder .. => "IllegalTransition"

/-- A fault's structure, for diagnostics. -/
def debugText (f : Fault) : String :=
  match f with
  | .unattached oid missing =>
    String.join [f.kind, " \x7b oid: ", oid.debugText, ", missing: ", Text.quoted missing, " \x7d"]
  | .notUndone oid reason =>
    String.join [f.kind, " \x7b oid: ", oid.debugText, ", reason: ", Text.quoted reason, " \x7d"]
  | .outOfOrder oid source target =>
    String.join
      [f.kind, " \x7b oid: ", oid.debugText, ", from: ", source.text, ", to: ", target.text,
        " \x7d"]

end Fault

end SnmpSet
