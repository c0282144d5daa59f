import SnmpSet.Proofs.Agent.Atomicity

/-!
# The agent keeps its guarantees

A batch takes each of its targets from phase to phase as the phases allow, and
an undo finds in each object the value that was committed to it. A fault would
say otherwise, so no batch faults. What a step guarantees for one target carries
over to a stage, and from stage to stage.
-/

namespace SnmpSet

/-- A step that does not fault, and that leaves the target with a property unless
it stops the batch. -/
structure Step.Safe (s : Step) (p : Target → Prop) : Prop where
  not_faulted : ∀ fault, s.stop ≠ some (.faulted fault)
  holds : s.stop = none → p s.target

/-- A run that does not fault, and that leaves all targets with a property unless
it stops. -/
structure Run.Safe (r : Run) (p : Target → Prop) : Prop where
  not_faulted : ∀ position fault, r.stop ≠ some (position, .faulted fault)
  holds : r.stop = none → ∀ t ∈ r.targets, p t

namespace Target

/-- The write is committed, and the object holds the value that was stored for it. -/
structure Undoable (t : Target) : Prop where
  committed : t.write.phase = .committed
  live : t.write.stored = some t.body.value

/-- A target that can be undone is undone without a fault. -/
theorem Undoable.stop_undo {t : Target} (hundoable : t.Undoable) : t.undo.stop = none := by
  have hnext : Phase.undoApplied ∈ t.write.phase.next := by rw [hundoable.committed]; decide
  simp only [undo, if_pos hundoable.live, moveTo, ObjectBody.assign,
    PendingWrite.moveTo_of_mem hnext]

variable {t : Target}

/-- A target at the start of a batch is prepared or refused, or the agent halts. -/
theorem prepare_safe (policy : WritePolicy) (requester : Requester)
    (hphase : t.write.phase = .created) :
    (t.prepare policy requester).Safe fun u => u.write.phase = .prepared := by
  cases hverdict : (t.prepareJudgement policy requester).verdict with
  | ok _ =>
    obtain ⟨htarget, hstop, -⟩ := prepare_ends_of_ok hphase hverdict
    exact ⟨by simp [hstop], fun _ => by rw [htarget, phase_inPhase]⟩
  | error failure =>
    obtain ⟨-, hstop, -⟩ := prepare_ends_of_error hphase hverdict
    exact ⟨by cases failure <;> simp [hstop, WriteFailure.stop], by simp [hstop]⟩

/-- A prepared target is checked or refused. -/
theorem check_safe (hphase : t.write.phase = .prepared) :
    t.check.Safe fun u => u.write.phase = .checked := by
  cases hverdict : (t.body.check t.write.proposed).verdict with
  | ok _ =>
    obtain ⟨htarget, hstop, -⟩ := check_ends_of_ok hphase hverdict
    exact ⟨by simp [hstop], fun _ => by rw [htarget, phase_inPhase]⟩
  | error e =>
    obtain ⟨-, hstop, -⟩ := check_ends_of_refused hphase hverdict
    exact ⟨by simp [hstop], by simp [hstop]⟩

/-- A checked target is committed so that it can be undone, or it is refused, or
the agent halts. -/
theorem commit_safe (hphase : t.write.phase = .checked) : t.commit.Safe Undoable := by
  cases hresult : t.commitResult with
  | ok c =>
    obtain ⟨htarget, hstop, -⟩ := commit_ends_of_ok hphase hresult
    exact ⟨by simp [hstop], fun _ => by rw [htarget]; exact ⟨rfl, rfl⟩⟩
  | error failure =>
    cases failure with
    | refused e =>
      obtain ⟨-, hstop, -⟩ := commit_ends_of_refused hphase hresult
      exact ⟨by simp [hstop], by simp [hstop]⟩
    | halted =>
      obtain ⟨-, hstop, -⟩ := commit_ends_of_halted hresult
      exact ⟨by simp [hstop], by simp [hstop]⟩

end Target

namespace Run

variable {step : Target → Step} {p : Target → Prop} {ts : List Target}

/-- A stage whose steps do not fault does not fault. If it stops, the targets
before the one that stopped it have what the step leaves them with. -/
theorem stage_safe (hall : ∀ t ∈ ts, (step t).Safe p) :
    (stage step ts).Safe p ∧ ∀ position stop, (stage step ts).stop = some (position, stop) →
      ∀ t ∈ (stage step ts).targets.take position, p t := by
  induction ts with
  | nil => exact ⟨⟨by simp [stage], by simp [stage]⟩, by simp [stage]⟩
  | cons t ts ih =>
    obtain ⟨hhead, htail⟩ := List.forall_mem_cons.mp hall
    obtain ⟨hsafe, hbefore⟩ := ih htail
    cases hstop : (step t).stop with
    | some stopped =>
      simp only [stage, hstop]
      refine ⟨⟨?_, by simp⟩, ?_⟩
      · rintro position fault hfaulted
        obtain ⟨-, rfl⟩ := Prod.mk.inj (Option.some.inj hfaulted)
        exact hhead.not_faulted fault hstop
      · rintro position stop hposition
        obtain ⟨rfl, -⟩ := Prod.mk.inj (Option.some.inj hposition)
        simp
    | none =>
      simp only [stage, hstop]
      refine ⟨⟨?_, ?_⟩, ?_⟩
      · intro position fault hfaulted
        obtain ⟨⟨position', stop⟩, hrest, heq⟩ := Option.map_eq_some_iff.mp hfaulted
        obtain ⟨-, rfl⟩ := Prod.mk.inj heq
        exact hsafe.not_faulted position' fault hrest
      · intro hnone
        have hrest := hsafe.holds (Option.map_eq_none_iff.mp hnone)
        exact List.forall_mem_cons.mpr ⟨hhead.holds hstop, hrest⟩
      · intro position stop hposition
        obtain ⟨⟨position', stop'⟩, hrest, heq⟩ := Option.map_eq_some_iff.mp hposition
        obtain ⟨rfl, rfl⟩ := Prod.mk.inj heq
        rw [List.take_succ_cons]
        exact List.forall_mem_cons.mpr ⟨hhead.holds hstop, hbefore position' stop' hrest⟩

/-- What follows a safe run is safe if it is on targets as this run leaves them. -/
theorem Safe.andThen {r : Run} {next : List Target → Run} {q : Target → Prop} (hr : r.Safe p)
    (hnext : (∀ t ∈ r.targets, p t) → (next r.targets).Safe q) : (r.andThen next).Safe q := by
  unfold Run.andThen
  cases hstop : r.stop with
  | some stopped =>
    refine ⟨fun position fault => ?_, by simp [hstop]⟩
    exact hr.not_faulted position fault
  | none =>
    obtain ⟨hfaulted, hholds⟩ := hnext (hr.holds hstop)
    exact ⟨hfaulted, hholds⟩

/-- Targets that can be undone are rolled back without a fault. -/
theorem rollback_of_undoable (hundoable : ∀ t ∈ ts, t.Undoable) : (rollback ts).2.2 = none := by
  simp only [rollback, List.findSome?_eq_none_iff, List.mem_reverse, List.mem_map]
  rintro _ ⟨t, ht, rfl⟩
  exact (hundoable t ht).stop_undo

/-- Commits do not fault, and if one of them is refused, neither do the undos of
those before it. -/
theorem commitAll_not_faulted (hchecked : ∀ t ∈ ts, t.write.phase = .checked) (position : Nat)
    (fault : Fault) : (commitAll ts).stop ≠ some (position, .faulted fault) := by
  obtain ⟨hsafe, hbefore⟩ := stage_safe fun t ht => Target.commit_safe (hchecked t ht)
  unfold commitAll
  dsimp only
  split
  · next stopped e hstop =>
    have hrollback := rollback_of_undoable (hbefore stopped (.refused e) hstop)
    simp [hrollback, hstop]
  · exact hsafe.not_faulted position fault

/-- A batch keeps the guarantees of the agent: it does not fault; no step before
the commits faults; if the commits begin, none of them faults; and if one of them
is refused, each of those before it can be undone, and its undo does not fault. -/
structure KeepsGuarantees (policy : WritePolicy) (requester : Requester) (ts : List Target) :
    Prop where
  all_not_faulted : ∀ position fault,
    (all policy requester ts).stop ≠ some (position, .faulted fault)
  beforeCommit_not_faulted : ∀ position fault,
    (beforeCommit policy requester ts).stop ≠ some (position, .faulted fault)
  commits_not_faulted : (beforeCommit policy requester ts).stop = none → ∀ position fault,
    (commits policy requester ts).stop ≠ some (position, .faulted fault)
  undoable : (beforeCommit policy requester ts).stop = none → ∀ position e,
    (commits policy requester ts).stop = some (position, .refused e) →
      ∀ t ∈ (commits policy requester ts).targets.take position, t.Undoable ∧ t.undo.stop = none

/-- A batch on fresh targets goes safely up to its commits. -/
theorem beforeCommit_safe (policy : WritePolicy) (requester : Requester)
    (hcreated : ∀ t ∈ ts, t.write.phase = .created) :
    (beforeCommit policy requester ts).Safe fun t => t.write.phase = .checked :=
  (stage_safe fun t ht => Target.prepare_safe policy requester (hcreated t ht)).1.andThen
    fun hprepared => (stage_safe fun t ht => Target.check_safe (hprepared t ht)).1

/-- A batch on fresh targets keeps the guarantees of the agent. -/
theorem keepsGuarantees_of_created (policy : WritePolicy) (requester : Requester)
    (hcreated : ∀ t ∈ ts, t.write.phase = .created) : KeepsGuarantees policy requester ts := by
  have hbefore := beforeCommit_safe policy requester hcreated
  have hall : (all policy requester ts).Safe fun _ => True :=
    hbefore.andThen fun hchecked => ⟨commitAll_not_faulted hchecked, fun _ _ _ => trivial⟩
  have hcommits (hstop : (beforeCommit policy requester ts).stop = none) :=
    stage_safe fun t ht => Target.commit_safe (hbefore.holds hstop t ht)
  refine ⟨hall.not_faulted, hbefore.not_faulted, fun hstop => (hcommits hstop).1.not_faulted, ?_⟩
  intro hstop position e hrefused t ht
  have hundoable := (hcommits hstop).2 position (.refused e) hrefused t ht
  exact ⟨hundoable, hundoable.stop_undo⟩

end Run

namespace Agent

variable {a : Agent} {requester : Requester} {bindings : List VarBind}

/-- A request is always answered with a response, never with a fault, and a batch
that runs for it keeps the guarantees of the agent all the way. -/
theorem set_never_faults (hbounded : a.store.KeysBounded) (requester : Requester)
    (bindings : List VarBind) :
    (∃ r, (a.set requester bindings).answer = .response r) ∧
      ∀ ts, targetsOf a.store [] bindings = .ok ts →
        Run.KeepsGuarantees a.policy requester ts := by
  constructor
  · rcases settled_of_keysBounded hbounded requester bindings with
      ⟨ts, haccepts⟩ | hbig | ⟨-, h, position, e, hrefused⟩
    · exact ⟨_, (set_of_accepts haccepts).1⟩
    · exact ⟨_, congrArg Outcome.answer (set_of_tooBig hbig)⟩
    · exact ⟨_, hrefused.answer_eq⟩
  · intro ts hpaired
    obtain ⟨-, hfresh, -, -⟩ := targetsOf_ok hpaired
    exact Run.keepsGuarantees_of_created a.policy requester fun t ht => (hfresh t ht).created

/-- Where the third commit fails, the request is answered and its batch keeps the guarantees. -/
theorem failingKeyRequest_never_faults :
    withFailingKey.store.KeysBounded ∧
      (∃ r, (withFailingKey.set none failingKeyRequest).answer = .response r) ∧
      ∃ ts, targetsOf withFailingKey.store [] failingKeyRequest = .ok ts ∧ ts.length = 3 ∧
        Run.KeepsGuarantees withFailingKey.policy none ts := by
  have hbounded : withFailingKey.store.KeysBounded := by decide
  obtain ⟨hresponse, hkeeps⟩ :=
    set_never_faults hbounded none failingKeyRequest
  exact ⟨hbounded, hresponse, _, rfl, rfl, hkeeps _ rfl⟩

end Agent

end SnmpSet
