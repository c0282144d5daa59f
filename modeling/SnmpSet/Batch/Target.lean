import SnmpSet.ManagedObject
import SnmpSet.PendingWrite

/-!
# One object in a batch

While a batch runs, each of its bindings is paired with the object that it
addresses. A step of a stage works on one such pair and on nothing else.
-/

namespace SnmpSet

/-- A name and a value, as requests and responses carry them. -/
structure VarBind where
  oid : Oid
  value : Value
  deriving DecidableEq

/-- The binding that a successful response carries for a write. -/
def PendingWrite.report (w : PendingWrite) : VarBind := ⟨w.oid, w.reported.getD w.proposed⟩

/-- A binding of a batch with the object that it addresses. -/
structure Target where
  write : PendingWrite
  body : ObjectBody

/-- What stops a batch before its end. -/
inductive Stop where
  /-- A binding is refused. -/
  | refused (reason : Refusal)
  /-- The agent could not keep its own guarantees. -/
  | faulted (fault : Fault)
  /-- The agent halts. -/
  | halted
  deriving DecidableEq

/-- The outcome of one step on one target: what is left of the target, whether
the batch stops, whom the step asked, and what it told observers. -/
structure Step where
  target : Target
  stop : Option Stop
  asked : List Rule
  notified : List Notification

namespace Target

/-- The target of a binding at the start of a batch. -/
def ofBinding (binding : VarBind) (body : ObjectBody) : Target :=
  { write := (PendingWrite.start binding.oid binding.value body.value).hide body.kind.isSecret
    body }

/-- Moves the write on. -/
def moveTo (t : Target) (phase : Phase) (asked : List Rule) (notified : List Notification) :
    Step :=
  match t.write.moveTo phase with
  | .ok write => ⟨{ t with write }, none, asked, notified⟩
  | .error fault => ⟨t, some (.faulted fault), asked, notified⟩

/-- Fails the write for the reason that its binding is refused. -/
def refuse (t : Target) (reason : Refusal) (asked : List Rule) : Step :=
  match t.write.refuse reason with
  | .ok write => ⟨{ t with write }, some (.refused reason), asked, []⟩
  | .error fault => ⟨t, some (.faulted fault), asked, []⟩

/-- Judges the binding beside the policy, the requester and the live value. -/
def prepare (policy : WritePolicy) (requester : Requester) (t : Target) : Step :=
  let judgement :=
    if policy.allows requester t.write.oid then t.body.prepare t.write.proposed requester
    else .direct (.error (.refused (.noAccess s!"write to {t.write.oid} denied")))
  match judgement.verdict with
  | .ok () => t.moveTo .prepared judgement.asked []
  | .error (.refused e) => t.refuse e judgement.asked
  | .error .halted => ⟨t, some .halted, judgement.asked, []⟩

/-- Judges the prepared binding. -/
def check (t : Target) : Step :=
  let judgement := t.body.check t.write.proposed
  match judgement.verdict with
  | .ok () => t.moveTo .checked judgement.asked []
  | .error e => t.refuse e judgement.asked

/-- The reason that reports a failed commit. -/
def commitRefusal : Refusal → Refusal
  | .commitFailed reason => .commitFailed reason
  | e => .commitFailed e.message

/-- Stores what the object's kind makes of the checked binding. -/
def commit (t : Target) : Step :=
  match t.body.commit t.write.oid t.write.proposed with
  | .ok (committed, body, notified) =>
    match t.write.commit committed.stored committed.reported with
    | .ok write => ⟨⟨write, body⟩, none, [], notified⟩
    | .error fault => ⟨{ t with body }, some (.faulted fault), [], notified⟩
  | .error (.refused e) => t.refuse (commitRefusal e) []
  | .error .halted => ⟨t, some .halted, [], []⟩

/-- Puts the prior value back, provided that the object still holds what the
commit stored. -/
def undo (t : Target) : Step :=
  if t.write.stored = some t.body.value then
    let (body, notified) := t.body.assign t.write.oid t.write.prior
    Target.moveTo { t with body } .undoApplied [] notified
  else
    let reason := s!"live value {t.body.shownValue} is not the committed value"
    ⟨t, some (.faulted (.notUndone t.write.oid reason)), [], []⟩

/-- Ends the write. -/
def finish (t : Target) : Target := { t with write := t.write.finish }

/-- The binding that a successful response carries. -/
def reported (t : Target) : VarBind := t.write.report

end Target

end SnmpSet
