import SnmpSet.Proofs.Batch.Stages
import SnmpSet.Proofs.KeyChange.Commit

/-!
# The course of a batch

A batch takes one of four courses: it fails at prepare, where it is refused or
halts the agent, it is refused at check or at commit, or it completes. Each course
is told by the verdicts on the targets as they stand at the start, and for each
the end of the run is given target by target. A batch that is refused at commit
has undone the commits before it.
-/

namespace SnmpSet

namespace Target

/-- The policy and the object accept the proposal at prepare. -/
def Prepares (policy : WritePolicy) (requester : Requester) (t : Target) : Prop :=
  (t.prepareJudgement policy requester).verdict = .ok ()

/-- A target is prepared exactly if the policy allows it to be written and its
object prepares the proposal. -/
theorem prepares_iff {policy : WritePolicy} {requester : Requester} {t : Target} :
    t.Prepares policy requester ↔ policy.allows requester t.write.oid = true ∧
      (t.body.prepare t.write.proposed requester).verdict = .ok () := by
  unfold Prepares prepareJudgement
  split
  · next hallowed => simp [hallowed]
  · next hdenied => simp [hdenied]

/-- Where the agent halts at prepare, it is the object that halts it. -/
theorem verdict_prepare_of_halted {policy : WritePolicy} {requester : Requester} {t : Target}
    (hhalted : (t.prepareJudgement policy requester).verdict = .error .halted) :
    (t.body.prepare t.write.proposed requester).verdict = .error .halted := by
  unfold prepareJudgement at hhalted
  split at hhalted
  · exact hhalted
  · simp at hhalted

/-- The object accepts the proposal at check. -/
def Checks (t : Target) : Prop := (t.body.check t.write.proposed).verdict = .ok ()

/-- What a commit of the target stores and reports, or the proposal if nothing does. -/
def outcome (t : Target) : Committed :=
  t.commitResult.toOption.getD ⟨t.write.proposed, t.write.proposed⟩

/-- The object's kind commits the proposal. -/
def Commits (t : Target) : Prop := t.commitResult = .ok t.outcome

/-- A target whose commit comes about commits to just what it comes to. -/
theorem commits_of_ok {t : Target} {c : Committed} (hresult : t.commitResult = .ok c) :
    t.Commits ∧ t.outcome = c := by
  have houtcome : t.outcome = c := by simp [outcome, hresult, Except.toOption]
  exact ⟨by rw [Commits, houtcome, hresult], houtcome⟩

/-- A prepared target that does not commit is refused, as no commit halts the agent that
was prepared. -/
theorem exists_refused_of_not_commits {policy : WritePolicy} {requester : Requester}
    {t : Target} (hprepares : t.Prepares policy requester) (hnot : ¬t.Commits) :
    ∃ e, t.commitResult = .error (.refused e) := by
  cases hresult : t.commitResult with
  | ok c => exact absurd (commits_of_ok hresult).1 hnot
  | error failure =>
    cases failure with
    | refused e => exact ⟨e, rfl⟩
    | halted =>
      obtain ⟨-, hprepare⟩ := prepares_iff.mp hprepares
      obtain ⟨-, -, -, -, hkind⟩ := ObjectBody.verdict_prepare_eq_ok.mp hprepare
      exact absurd hresult (Kind.commit_ne_halted_of_prepare hkind)

end Target

variable {policy : WritePolicy} {requester : Requester} {ts : List Target}

/-- The course that a batch takes, by the verdicts on its targets. -/
inductive Course (policy : WritePolicy) (requester : Requester) (ts : List Target) : Prop where
  /-- A target is the first to fail at prepare. -/
  | unprepared {before after : List Target} {t : Target} {failure : WriteFailure}
      (hsplit : ts = before ++ t :: after) (hbefore : ∀ u ∈ before, u.Prepares policy requester)
      (hfails : (t.prepareJudgement policy requester).verdict = .error failure)
  /-- All targets are prepared, and one is the first to be refused at check. -/
  | unchecked {before after : List Target} {t : Target} {e : Refusal}
      (hsplit : ts = before ++ t :: after) (hprepares : ∀ u ∈ ts, u.Prepares policy requester)
      (hbefore : ∀ u ∈ before, u.Checks)
      (hrefused : (t.body.check t.write.proposed).verdict = .error e)
  /-- All targets are checked, and one is the first to be refused at commit. -/
  | uncommitted {before after : List Target} {t : Target} {e : Refusal}
      (hsplit : ts = before ++ t :: after) (hprepares : ∀ u ∈ ts, u.Prepares policy requester)
      (hchecks : ∀ u ∈ ts, u.Checks) (hbefore : ∀ u ∈ before, u.Commits)
      (hrefused : t.commitResult = .error (.refused e))
  /-- All targets are committed. -/
  | completing (hprepares : ∀ u ∈ ts, u.Prepares policy requester)
      (hchecks : ∀ u ∈ ts, u.Checks) (hcommits : ∀ u ∈ ts, u.Commits)

/-- Every batch takes one of the courses. -/
theorem Course.exists (policy : WritePolicy) (requester : Requester) (ts : List Target) :
    Course policy requester ts := by
  rcases forall_or_exists_first (Target.Prepares policy requester) ts with
    hprepares | ⟨before, t, after, hsplit, hbefore, hnot⟩
  · rcases forall_or_exists_first Target.Checks ts with
      hchecks | ⟨before, t, after, hsplit, hbefore, hnot⟩
    · rcases forall_or_exists_first Target.Commits ts with
        hcommits | ⟨before, t, after, hsplit, hbefore, hnot⟩
      · exact .completing hprepares hchecks hcommits
      · have ht : t ∈ ts := by simp [hsplit]
        obtain ⟨e, hrefused⟩ := Target.exists_refused_of_not_commits (hprepares t ht) hnot
        exact .uncommitted hsplit hprepares hchecks hbefore hrefused
    · obtain ⟨e, he⟩ := exists_error_of_ne_ok hnot
      exact .unchecked hsplit hprepares hbefore he
  · obtain ⟨e, he⟩ := exists_error_of_ne_ok hnot
    exact .unprepared hsplit hbefore he

namespace Run

/-- The two stages of a batch before its commits. -/
def beforeCommit (policy : WritePolicy) (requester : Requester) (ts : List Target) : Run :=
  (stage (Target.prepare policy requester) ts).andThen (stage Target.check)

/-- The commits of a batch, as they are before any of them is undone. -/
def commits (policy : WritePolicy) (requester : Requester) (ts : List Target) : Run :=
  stage Target.commit (beforeCommit policy requester ts).targets

/-- A commit of the batch is refused, so that those before it are undone. -/
def RollsBack (policy : WritePolicy) (requester : Requester) (ts : List Target) : Prop :=
  (beforeCommit policy requester ts).stop = none ∧
    ∃ position e, (commits policy requester ts).stop = some (position, .refused e)

/-- Targets at the start of a batch that all pass prepare are prepared. -/
theorem stage_prepare_ends (hcreated : ∀ t ∈ ts, t.write.phase = .created)
    (hprepares : ∀ t ∈ ts, t.Prepares policy requester) :
    (stage (Target.prepare policy requester) ts).Ends (ts.map (Target.inPhase · .prepared))
      none [] := by
  simpa using stage_ends_of_forall_silent (g := id) fun t ht =>
    Target.prepare_ends_of_ok (hcreated t ht) (hprepares t ht)

/-- The two stages before commit carry targets that pass them all the way. -/
theorem beforeCommit_ends (hcreated : ∀ t ∈ ts, t.write.phase = .created)
    (hprepares : ∀ t ∈ ts, t.Prepares policy requester) (hchecks : ∀ t ∈ ts, t.Checks) :
    (beforeCommit policy requester ts).Ends (ts.map (Target.inPhase · .checked)) none [] := by
  have hcheck : (stage Target.check (ts.map (Target.inPhase · .prepared))).Ends
      (ts.map (Target.inPhase · .checked)) none [] :=
    stage_ends_of_forall_silent fun t ht =>
      Target.check_ends_of_ok (t := t.inPhase .prepared) rfl (hchecks t ht)
  exact (stage_prepare_ends hcreated hprepares).andThen hcheck

/-- A checked target that commits takes the value that it comes to. -/
theorem commit_step_ends {t : Target} (hcommits : t.Commits) :
    (t.inPhase .checked).commit.Ends (t.committed t.outcome) none
      (t.notices t.body.value t.outcome.stored) :=
  Target.commit_ends_of_ok (t := t.inPhase .checked) rfl hcommits

/-- A batch that is not refused before its commits takes the steps of these. -/
theorem commits_ends {targets : List Target} {stop : Option (Nat × Stop)}
    {notified : List Notification} (hcreated : ∀ t ∈ ts, t.write.phase = .created)
    (hprepares : ∀ t ∈ ts, t.Prepares policy requester) (hchecks : ∀ t ∈ ts, t.Checks)
    (hstage : (stage Target.commit (ts.map (Target.inPhase · .checked))).Ends targets stop
      notified) : (commits policy requester ts).Ends targets stop notified := by
  rw [commits, (beforeCommit_ends hcreated hprepares hchecks).targets_eq]
  exact hstage

/-- The commits of targets that all commit. -/
theorem stage_commit_ends (hcommits : ∀ t ∈ ts, t.Commits) :
    (stage Target.commit (ts.map (Target.inPhase · .checked))).Ends
      (ts.map fun t => t.committed t.outcome) none
      (ts.flatMap fun t => t.notices t.body.value t.outcome.stored) :=
  stage_ends_of_forall fun t ht => commit_step_ends (hcommits t ht)

variable {before : List Target} {t : Target}

/-- The commits up to the first that is refused. -/
theorem stage_commit_ends_of_refused {e : Refusal} (hbefore : ∀ u ∈ before, u.Commits)
    (hrefused : t.commitResult = .error (.refused e)) (after : List Target) :
    (stage Target.commit ((before ++ t :: after).map (Target.inPhase · .checked))).Ends
      ((before.map fun u => u.committed u.outcome) ++
        t.failed (Target.commitRefusal e) :: after.map (Target.inPhase · .checked))
      (some (before.length, .refused (Target.commitRefusal e)))
      (before.flatMap fun u => u.notices u.body.value u.outcome.stored) := by
  simpa using stage_ends_of_first (fun u hu => commit_step_ends (hbefore u hu))
    (Target.commit_ends_of_refused (t := t.inPhase .checked) rfl hrefused)
    (after.map (Target.inPhase · .checked))

variable {after : List Target}

/-- The stage of prepare up to the first target that fails. -/
theorem stage_prepare_ends_of_unprepared {failure : WriteFailure}
    (hcreated : ∀ u ∈ before ++ t :: after, u.write.phase = .created)
    (hbefore : ∀ u ∈ before, u.Prepares policy requester)
    (hfails : (t.prepareJudgement policy requester).verdict = .error failure) :
    (stage (Target.prepare policy requester) (before ++ t :: after)).Ends
      (before.map (Target.inPhase · .prepared) ++ t.failedBy failure :: after)
      (some (before.length, failure.stop)) [] := by
  simpa using stage_ends_of_first_silent (g := id)
    (fun u hu => Target.prepare_ends_of_ok (hcreated u (by simp [hu])) (hbefore u hu))
    (Target.prepare_ends_of_error (hcreated t (by simp)) hfails)

/-- A batch that fails at prepare ends before its commits. -/
theorem beforeCommit_ends_of_unprepared {failure : WriteFailure}
    (hcreated : ∀ u ∈ before ++ t :: after, u.write.phase = .created)
    (hbefore : ∀ u ∈ before, u.Prepares policy requester)
    (hfails : (t.prepareJudgement policy requester).verdict = .error failure) :
    (beforeCommit policy requester (before ++ t :: after)).Ends
      (before.map (Target.inPhase · .prepared) ++ t.failedBy failure :: after)
      (some (before.length, failure.stop)) [] :=
  (stage_prepare_ends_of_unprepared hcreated hbefore hfails).andThen_of_stop _

/-- A batch that is refused at check ends before its commits. -/
theorem beforeCommit_ends_of_unchecked {e : Refusal}
    (hcreated : ∀ u ∈ before ++ t :: after, u.write.phase = .created)
    (hprepares : ∀ u ∈ before ++ t :: after, u.Prepares policy requester)
    (hbefore : ∀ u ∈ before, u.Checks)
    (hrefused : (t.body.check t.write.proposed).verdict = .error e) :
    (beforeCommit policy requester (before ++ t :: after)).Ends
      (before.map (Target.inPhase · .checked) ++
        t.failed e :: after.map (Target.inPhase · .prepared))
      (some (before.length, .refused e)) [] := by
  have hcheck : (stage Target.check
      ((before ++ t :: after).map (Target.inPhase · .prepared))).Ends
      (before.map (Target.inPhase · .checked) ++
        t.failed e :: after.map (Target.inPhase · .prepared))
      (some (before.length, .refused e)) [] := by
    rw [List.map_append, List.map_cons]
    exact stage_ends_of_first_silent
      (fun u hu => Target.check_ends_of_ok (t := u.inPhase .prepared) rfl (hbefore u hu))
      (Target.check_ends_of_refused (t := t.inPhase .prepared) rfl hrefused)
  exact (stage_prepare_ends hcreated hprepares).andThen hcheck

/-- A batch that fails at prepare leaves the targets after the failed one as they
were. -/
theorem all_ends_of_unprepared {failure : WriteFailure}
    (hcreated : ∀ u ∈ before ++ t :: after, u.write.phase = .created)
    (hbefore : ∀ u ∈ before, u.Prepares policy requester)
    (hfails : (t.prepareJudgement policy requester).verdict = .error failure) :
    (all policy requester (before ++ t :: after)).Ends
      (before.map (Target.inPhase · .prepared) ++ t.failedBy failure :: after)
      (some (before.length, failure.stop)) [] :=
  (beforeCommit_ends_of_unprepared hcreated hbefore hfails).andThen_of_stop _

/-- A batch that fails at prepare has asked the rules up to the failed target, and
nobody afterwards. -/
theorem asked_all_of_unprepared {failure : WriteFailure}
    (hcreated : ∀ u ∈ before ++ t :: after, u.write.phase = .created)
    (hbefore : ∀ u ∈ before, u.Prepares policy requester)
    (hfails : (t.prepareJudgement policy requester).verdict = .error failure) :
    (all policy requester (before ++ t :: after)).asked =
      (before.flatMap fun u => (u.prepareJudgement policy requester).asked) ++
        (t.prepareJudgement policy requester).asked := by
  have hstopped := (stage_prepare_ends_of_unprepared hcreated hbefore hfails).stop_eq
  have hpassed : ∀ u ∈ before, (u.prepare policy requester).stop = none := fun u hu =>
    (Target.prepare_ends_of_ok (hcreated u (by simp [hu])) (hbefore u hu)).stop_eq
  have hfirst := (Target.prepare_ends_of_error (hcreated t (by simp)) hfails).stop_eq
  have hasked := asked_stage_of_first hpassed hfirst after
  simp only [Target.asked_prepare] at hasked
  rw [all, andThen_of_stop hstopped, andThen_of_stop hstopped, hasked]

/-- A batch that is refused at check has prepared all of its targets. -/
theorem all_ends_of_unchecked {e : Refusal}
    (hcreated : ∀ u ∈ before ++ t :: after, u.write.phase = .created)
    (hprepares : ∀ u ∈ before ++ t :: after, u.Prepares policy requester)
    (hbefore : ∀ u ∈ before, u.Checks)
    (hrefused : (t.body.check t.write.proposed).verdict = .error e) :
    (all policy requester (before ++ t :: after)).Ends
      (before.map (Target.inPhase · .checked) ++
        t.failed e :: after.map (Target.inPhase · .prepared))
      (some (before.length, .refused e)) [] :=
  (beforeCommit_ends_of_unchecked hcreated hprepares hbefore hrefused).andThen_of_stop _

/-- Commits of which none is refused are not followed by any undo. -/
theorem commitAll_ends {targets : List Target} {stop : Option (Nat × Stop)}
    {notified : List Notification} (hstage : (stage Target.commit ts).Ends targets stop notified)
    (hnot : ∀ position e, stop ≠ some (position, .refused e)) :
    (commitAll ts).Ends targets stop notified := by
  obtain ⟨htargets, hstop, hnotified⟩ := hstage
  unfold commitAll
  dsimp only
  split
  · next position e hrefused => exact absurd (hstop.symm.trans hrefused) (hnot position e)
  · exact ⟨htargets, hstop, hnotified⟩

/-- Commits of which one is refused are undone, the latest first. -/
theorem commitAll_ends_of_refused {e : Refusal} (hbefore : ∀ u ∈ before, u.Commits)
    (hrefused : t.commitResult = .error (.refused e)) :
    (commitAll ((before ++ t :: after).map (Target.inPhase · .checked))).Ends
      ((before.map fun u => u.undone u.outcome) ++
        t.failed (Target.commitRefusal e) :: after.map (Target.inPhase · .checked))
      (some (before.length, .refused (Target.commitRefusal e)))
      ((before.flatMap fun u => u.notices u.body.value u.outcome.stored) ++
        before.reverse.flatMap fun u => u.notices u.outcome.stored u.write.prior) := by
  obtain ⟨htargets, hstop, hnotified⟩ := stage_commit_ends_of_refused hbefore hrefused after
  have hundo := rollback_map fun u (_ : u ∈ before) => Target.undo_committed_ends u u.outcome
  -- the targets to undo are the first ones of the stage, up to the refused one
  unfold commitAll
  simp only [hstop, htargets, hnotified]
  simp only [List.take_left', List.drop_left', List.length_map, hundo]
  exact ⟨rfl, rfl, rfl⟩

/-- A batch whose targets all commit leaves each of them committed. -/
theorem all_ends_of_completing (hcreated : ∀ u ∈ ts, u.write.phase = .created)
    (hprepares : ∀ u ∈ ts, u.Prepares policy requester) (hchecks : ∀ u ∈ ts, u.Checks)
    (hcommits : ∀ u ∈ ts, u.Commits) :
    (all policy requester ts).Ends (ts.map fun u => u.committed u.outcome) none
      (ts.flatMap fun u => u.notices u.body.value u.outcome.stored) :=
  (beforeCommit_ends hcreated hprepares hchecks).andThen
    (commitAll_ends (stage_commit_ends hcommits) (by simp))

/-- A batch that is refused at commit has undone the commits before the refused
one, the latest first. -/
theorem all_ends_of_uncommitted {e : Refusal}
    (hcreated : ∀ u ∈ before ++ t :: after, u.write.phase = .created)
    (hprepares : ∀ u ∈ before ++ t :: after, u.Prepares policy requester)
    (hchecks : ∀ u ∈ before ++ t :: after, u.Checks) (hbefore : ∀ u ∈ before, u.Commits)
    (hrefused : t.commitResult = .error (.refused e)) :
    (all policy requester (before ++ t :: after)).Ends
      ((before.map fun u => u.undone u.outcome) ++
        t.failed (Target.commitRefusal e) :: after.map (Target.inPhase · .checked))
      (some (before.length, .refused (Target.commitRefusal e)))
      ((before.flatMap fun u => u.notices u.body.value u.outcome.stored) ++
        before.reverse.flatMap fun u => u.notices u.outcome.stored u.write.prior) :=
  (beforeCommit_ends hcreated hprepares hchecks).andThen
    (commitAll_ends_of_refused hbefore hrefused)

/-- A batch rolls back only where a target that is prepared and checked is refused
at commit. -/
theorem exists_refused_of_rollsBack (hcreated : ∀ u ∈ ts, u.write.phase = .created)
    (hrollsBack : RollsBack policy requester ts) :
    ∃ t ∈ ts, t.Prepares policy requester ∧ t.Checks ∧
      ∃ e, t.commitResult = .error (.refused e) := by
  obtain ⟨hpassed, position, e, hstop⟩ := hrollsBack
  cases Course.exists policy requester ts with
  | unprepared hsplit hbefore hfails =>
    subst hsplit
    simp [(beforeCommit_ends_of_unprepared hcreated hbefore hfails).stop_eq] at hpassed
  | unchecked hsplit hprepares hbefore hrefused =>
    subst hsplit
    simp [(beforeCommit_ends_of_unchecked hcreated hprepares hbefore hrefused).stop_eq] at hpassed
  | @uncommitted before after t e' hsplit hprepares hchecks hbefore hrefused =>
    have ht : t ∈ ts := by simp [hsplit]
    exact ⟨t, ht, hprepares t ht, hchecks t ht, e', hrefused⟩
  | completing hprepares hchecks hcommits =>
    have hcommits := commits_ends hcreated hprepares hchecks (stage_commit_ends hcommits)
    simp [hcommits.stop_eq] at hstop

/-- A batch tells observers nothing if one of its targets is not prepared and checked. -/
theorem notified_of_unready (hcreated : ∀ u ∈ ts, u.write.phase = .created) {t : Target}
    (ht : t ∈ ts) (hunready : t.Prepares policy requester → ¬t.Checks) :
    (all policy requester ts).notified = [] := by
  cases Course.exists policy requester ts with
  | unprepared hsplit hbefore hfails =>
    subst hsplit
    exact (all_ends_of_unprepared hcreated hbefore hfails).notified_eq
  | unchecked hsplit hprepares hbefore hrefused =>
    subst hsplit
    exact (all_ends_of_unchecked hcreated hprepares hbefore hrefused).notified_eq
  | uncommitted _ hprepares hchecks _ _ | completing hprepares hchecks _ =>
    exact absurd (hchecks t ht) (hunready (hprepares t ht))

/-- A batch leaves a target undone only where a target that is prepared and
checked is refused at commit. -/
theorem exists_refused_of_undone (hcreated : ∀ u ∈ ts, u.write.phase = .created) {u : Target}
    (hu : u ∈ (all policy requester ts).targets) (hundone : u.write.phase = .undoApplied) :
    ∃ t ∈ ts, t.Prepares policy requester ∧ t.Checks ∧
      ∃ e, t.commitResult = .error (.refused e) := by
  cases Course.exists policy requester ts with
  | @unprepared before after t failure hsplit hbefore hfails =>
    subst hsplit
    rw [(all_ends_of_unprepared hcreated hbefore hfails).targets_eq, List.mem_append,
      List.mem_cons, List.mem_map] at hu
    rcases hu with ⟨v, -, rfl⟩ | rfl | hu
    · cases hundone
    · cases failure with
      | refused e => cases hundone
      | halted => simp [Target.failedBy, hcreated t (by simp)] at hundone
    · simp [hcreated u (by simp [hu])] at hundone
  | unchecked hsplit hprepares hbefore hrefused =>
    subst hsplit
    rw [(all_ends_of_unchecked hcreated hprepares hbefore hrefused).targets_eq, List.mem_append,
      List.mem_cons, List.mem_map, List.mem_map] at hu
    rcases hu with ⟨v, -, rfl⟩ | rfl | ⟨v, -, rfl⟩ <;> cases hundone
  | @uncommitted before after t e' hsplit hprepares hchecks hbefore hrefused =>
    have ht : t ∈ ts := by simp [hsplit]
    exact ⟨t, ht, hprepares t ht, hchecks t ht, e', hrefused⟩
  | completing hprepares hchecks hcommits =>
    rw [(all_ends_of_completing hcreated hprepares hchecks hcommits).targets_eq,
      List.mem_map] at hu
    obtain ⟨v, -, rfl⟩ := hu
    cases hundone

end Run

end SnmpSet
