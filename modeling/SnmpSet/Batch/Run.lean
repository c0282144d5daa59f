import SnmpSet.Batch.Target

/-!
# Running a batch

A batch goes through three stages. Each stage takes the targets in request
order and stops at the first one that it cannot finish; the next stage begins
only when all targets have finished. If a commit is refused, the targets that
were already committed are undone, the latest first.
-/

namespace SnmpSet

/-- The outcome of a stage, or of several: the targets in request order, and
where and why the batch stopped. -/
structure Run where
  targets : List Target
  stop : Option (Nat × Stop)
  asked : List Rule
  notified : List Notification

namespace Run

/-- Takes one step on each target up to the first that stops the batch. -/
def stage (step : Target → Step) : List Target → Run
  | [] => ⟨[], none, [], []⟩
  | t :: ts =>
    let first := step t
    match first.stop with
    | some stop => ⟨first.target :: ts, some (0, stop), first.asked, first.notified⟩
    | none =>
      let rest := stage step ts
      { targets := first.target :: rest.targets
        stop := rest.stop.map fun (position, stop) => (position + 1, stop)
        asked := first.asked ++ rest.asked
        notified := first.notified ++ rest.notified }

/-- Continues with the targets of a run that has not stopped. -/
def andThen (r : Run) (next : List Target → Run) : Run :=
  match r.stop with
  | some _ => r
  | none =>
    let rest := next r.targets
    { rest with asked := r.asked ++ rest.asked, notified := r.notified ++ rest.notified }

/-- Undoes targets, the last one first. All are attempted; the first fault met is
the one reported. -/
def rollback (ts : List Target) : List Target × List Notification × Option Stop :=
  let steps := ts.map Target.undo
  let inOrder := steps.reverse
  (steps.map Step.target, inOrder.flatMap Step.notified, inOrder.findSome? Step.stop)

/-- Commits all targets, or undoes those before the one that is refused. -/
def commitAll (ts : List Target) : Run :=
  let r := stage Target.commit ts
  match r.stop with
  | some (position, .refused _) =>
    let (undone, notified, fault) := rollback (r.targets.take position)
    { r with
      targets := undone ++ r.targets.drop position
      stop := match fault with
        | some fault => some (position, fault)
        | none => r.stop
      notified := r.notified ++ notified }
  | _ => r

/-- Prepares, checks and commits all targets. -/
def all (policy : WritePolicy) (requester : Requester) (ts : List Target) : Run :=
  ((stage (Target.prepare policy requester) ts).andThen (stage Target.check)).andThen commitAll

end Run

end SnmpSet
