import SnmpSet.Batch.Target
import SnmpSet.Proofs.Judgement

/-!
# What one step does to a target

Each step of a batch is decided by one verdict. If the target is in the phase
that the step starts from, the phases allow the step either way: the target goes
on to the next phase, or it fails for the reason of the verdict. Where the agent
halts the target stays as it is. No step but a commit or an undo touches the object.
-/

namespace SnmpSet

namespace PendingWrite

variable {w : PendingWrite}

/-- A write moves to any phase that may come next. -/
theorem moveTo_of_mem {phase : Phase} (hnext : phase ∈ w.phase.next) :
    w.moveTo phase = .ok { w with phase } := by
  simp [moveTo, Phase.step, hnext]

/-- A write can be refused wherever it may fail. -/
theorem refuse_of_mem (hnext : .failed ∈ w.phase.next) (e : Refusal) :
    w.refuse e = .ok { w with phase := .failed, refusal := some e } := by
  simp [refuse, moveTo_of_mem hnext, Except.map]

/-- A checked write can be committed. -/
theorem commit_of_checked (hphase : w.phase = .checked) (stored reported : Value) :
    w.commit stored reported =
      .ok { w with phase := .committed, stored := some stored, reported := some reported } := by
  have hnext : Phase.committed ∈ w.phase.next := by rw [hphase]; decide
  simp [commit, moveTo_of_mem hnext, Except.map]

end PendingWrite

/-- How a failure stops a batch. -/
def WriteFailure.stop : WriteFailure → Stop
  | .refused e => .refused e
  | .halted => .halted

/-- A step leaves this target, stops the batch for this reason or not at all, and
tells observers this. -/
structure Step.Ends (s : Step) (target : Target) (stop : Option Stop)
    (notified : List Notification) : Prop where
  target_eq : s.target = target
  stop_eq : s.stop = stop
  notified_eq : s.notified = notified

namespace Target

/-- The binding that a target was made for. -/
def binding (t : Target) : VarBind := ⟨t.write.oid, t.write.proposed⟩

/-- The target with its write in another phase. -/
def inPhase (t : Target) (phase : Phase) : Target := { t with write := { t.write with phase } }

/-- The target with its write refused. -/
def failed (t : Target) (e : Refusal) : Target :=
  { t with write := { t.write with phase := .failed, refusal := some e } }

/-- What a failure leaves of the target: a halt leaves it as it is. -/
def failedBy (t : Target) : WriteFailure → Target
  | .refused e => t.failed e
  | .halted => t

/-- The target with its write committed and the object's new value stored. -/
def committed (t : Target) (c : Committed) : Target where
  write := { t.write with
    phase := .committed, stored := some c.stored, reported := some c.reported }
  body := { t.body with value := c.stored }

/-- The committed target with its write undone and the object's prior value put back. -/
def undone (t : Target) (c : Committed) : Target where
  write := { (t.committed c).write with phase := .undoApplied }
  body := { t.body with value := t.write.prior }

/-- The judgement that prepares a target. -/
def prepareJudgement (policy : WritePolicy) (requester : Requester) (t : Target) :
    Judgement WriteFailure :=
  if policy.allows requester t.write.oid then t.body.prepare t.write.proposed requester
  else .direct (.error (.refused (.noAccess s!"write to {t.write.oid} denied")))

/-- What the object's kind makes of the proposal. -/
def commitResult (t : Target) : Except WriteFailure Committed :=
  t.body.kind.commit t.body.value t.write.proposed

/-- What observers are told when the object's value changes. -/
def notices (t : Target) (old new : Value) : List Notification :=
  t.body.observers.map fun observer => ⟨observer, t.write.oid, old, new⟩

@[simp] theorem phase_inPhase (t : Target) (p : Phase) : (t.inPhase p).write.phase = p := rfl

@[simp] theorem failed_inPhase (t : Target) (p : Phase) (e : Refusal) :
    (t.inPhase p).failed e = t.failed e := rfl

/-- A failed write leaves the object alone. -/
@[simp] theorem body_failedBy (t : Target) (failure : WriteFailure) :
    (t.failedBy failure).body = t.body := by
  cases failure <;> rfl

/-- A failed write is still a write to its address. -/
@[simp] theorem oid_failedBy (t : Target) (failure : WriteFailure) :
    (t.failedBy failure).write.oid = t.write.oid := by
  cases failure <;> rfl

/-- Undoing a commit leaves the object as it was before. -/
theorem body_undone {t : Target} (hprior : t.write.prior = t.body.value) (c : Committed) :
    (t.undone c).body = t.body := by
  simp [undone, hprior]

variable {policy : WritePolicy} {requester : Requester} {t : Target}

/-- A target that is judged acceptable is prepared. -/
theorem prepare_ends_of_ok (hphase : t.write.phase = .created)
    (hverdict : (t.prepareJudgement policy requester).verdict = .ok ()) :
    (t.prepare policy requester).Ends (t.inPhase .prepared) none [] := by
  have hnext : Phase.prepared ∈ t.write.phase.next := by rw [hphase]; decide
  unfold prepareJudgement at hverdict
  simp only [prepare, hverdict, moveTo, PendingWrite.moveTo_of_mem hnext]
  exact ⟨rfl, rfl, rfl⟩

/-- A target that is judged unacceptable fails for the reason given, and one that halts the
agent stays as it is. -/
theorem prepare_ends_of_error {failure : WriteFailure} (hphase : t.write.phase = .created)
    (hverdict : (t.prepareJudgement policy requester).verdict = .error failure) :
    (t.prepare policy requester).Ends (t.failedBy failure) (some failure.stop) [] := by
  have hnext : Phase.failed ∈ t.write.phase.next := by rw [hphase]; decide
  unfold prepareJudgement at hverdict
  cases failure with
  | refused e =>
    simp only [prepare, hverdict, refuse, PendingWrite.refuse_of_mem hnext]
    exact ⟨rfl, rfl, rfl⟩
  | halted =>
    simp only [prepare, hverdict]
    exact ⟨rfl, rfl, rfl⟩

/-- Preparing a target asks the rules that judging it asks. -/
@[simp] theorem asked_prepare (policy : WritePolicy) (requester : Requester) (t : Target) :
    (t.prepare policy requester).asked = (t.prepareJudgement policy requester).asked := by
  have hmoved (phase : Phase) (asked : List Rule) : (t.moveTo phase asked []).asked = asked := by
    unfold moveTo
    split <;> rfl
  have hrefused (e : Refusal) (asked : List Rule) : (t.refuse e asked).asked = asked := by
    unfold refuse
    split <;> rfl
  unfold prepare
  dsimp only
  split
  · exact hmoved _ _
  · exact hrefused _ _
  · rfl

/-- A prepared target that passes the check is checked. -/
theorem check_ends_of_ok (hphase : t.write.phase = .prepared)
    (hverdict : (t.body.check t.write.proposed).verdict = .ok ()) :
    t.check.Ends (t.inPhase .checked) none [] := by
  have hnext : Phase.checked ∈ t.write.phase.next := by rw [hphase]; decide
  simp only [check, hverdict, moveTo, PendingWrite.moveTo_of_mem hnext]
  exact ⟨rfl, rfl, rfl⟩

/-- A prepared target that does not pass the check fails for the reason given. -/
theorem check_ends_of_refused {e : Refusal} (hphase : t.write.phase = .prepared)
    (hverdict : (t.body.check t.write.proposed).verdict = .error e) :
    t.check.Ends (t.failed e) (some (.refused e)) [] := by
  have hnext : Phase.failed ∈ t.write.phase.next := by rw [hphase]; decide
  simp only [check, hverdict, refuse, PendingWrite.refuse_of_mem hnext]
  exact ⟨rfl, rfl, rfl⟩

/-- A checked target takes the value that its kind makes of the proposal. -/
theorem commit_ends_of_ok {c : Committed} (hphase : t.write.phase = .checked)
    (hresult : t.commitResult = .ok c) :
    t.commit.Ends (t.committed c) none (t.notices t.body.value c.stored) := by
  unfold commitResult at hresult
  simp only [commit, ObjectBody.commit, hresult, PendingWrite.commit_of_checked hphase,
    ObjectBody.assign]
  exact ⟨rfl, rfl, rfl⟩

/-- A checked target whose kind refuses to commit fails and keeps its value. -/
theorem commit_ends_of_refused {e : Refusal} (hphase : t.write.phase = .checked)
    (hresult : t.commitResult = .error (.refused e)) :
    t.commit.Ends (t.failed (commitRefusal e)) (some (.refused (commitRefusal e))) [] := by
  have hnext : Phase.failed ∈ t.write.phase.next := by rw [hphase]; decide
  unfold commitResult at hresult
  simp only [commit, ObjectBody.commit, hresult, refuse, PendingWrite.refuse_of_mem hnext]
  exact ⟨rfl, rfl, rfl⟩

/-- A target whose kind halts at commit stays as it is. -/
theorem commit_ends_of_halted (hresult : t.commitResult = .error .halted) :
    t.commit.Ends t (some .halted) [] := by
  unfold commitResult at hresult
  simp only [commit, ObjectBody.commit, hresult]
  exact ⟨rfl, rfl, rfl⟩

/-- A committed target still holds what its commit stored, so that it can be undone. -/
theorem undo_committed_ends (t : Target) (c : Committed) :
    (t.committed c).undo.Ends (t.undone c) none (t.notices c.stored t.write.prior) := by
  have hnext : Phase.undoApplied ∈ (t.committed c).write.phase.next := by
    simp [committed, Phase.next]
  have hlive : (t.committed c).write.stored = some (t.committed c).body.value := rfl
  simp only [undo, if_pos hlive, moveTo, ObjectBody.assign, PendingWrite.moveTo_of_mem hnext]
  exact ⟨rfl, rfl, rfl⟩

/-- A commit is always reported as failed at commit. -/
@[simp] theorem status_commitRefusal (e : Refusal) : (commitRefusal e).status = .commitFailed := by
  cases e <;> rfl

end Target

end SnmpSet
