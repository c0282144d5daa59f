import SnmpSet.Proofs.Session.Writes

/-!
# What happens to an agent

Besides serving requests, an agent has its time stamps attached to clocks and set to
what these read, and the clocks go on. Nothing of this touches an object that is not a
time stamp. So what a run of events makes of such an object comes of the requests that
are accepted with a binding for it.
-/

namespace SnmpSet

/-- What a change in place leaves, whether it is granted or a fault. -/
def Watched.after {σ α : Type} (w : Watched σ) (update : EStateM Fault (Watched σ) α) : Watched σ :=
  match update.run w with
  | .ok _ w' | .error _ w' => w'

theorem Watched.after_of_ok {σ α : Type} {w w' : Watched σ} {a : α}
    {update : EStateM Fault (Watched σ) α} (hgranted : update.run w = .ok a w') :
    w.after update = w' := by
  rw [after, hgranted]

theorem Watched.after_of_fault {σ α : Type} {w w' : Watched σ} {fault : Fault}
    {update : EStateM Fault (Watched σ) α} (hfault : update.run w = .error fault w') :
    w.after update = w' := by
  rw [after, hfault]

/-- What can happen to an agent and to the clocks that it is attached to. -/
inductive Event where
  /-- A client asks something of the agent. -/
  | request (request : Request)
  /-- The object at an address is attached to a clock. -/
  | attach (oid : Oid) (clock : Clock)
  /-- The object at an address is set to what its clock reads. -/
  | stamp (oid : Oid)
  /-- The clocks come to read something else. -/
  | clocks (readings : Readings)

/-- An agent, with what the clocks around it read and what observers have been told so far. -/
structure World where
  agent : Agent
  readings : Readings
  told : List Notification

namespace World

/-- The objects of the agent, as observers watch them. -/
def watched (w : World) : Watched Store := ⟨w.agent.store, w.told⟩

/-- The world with other objects, and with what observers have been told of them. -/
def withWatched (w : World) (s : Watched Store) : World :=
  { w with agent := { w.agent with store := s.state }, told := s.told }

/-- The world after an event. -/
def after (w : World) : Event → World
  | .request request =>
    { w with
      agent := (w.agent.serve request).after
      told := w.told ++ w.agent.notifiedBy request }
  | .attach oid clock => w.withWatched (w.watched.after (Store.attachClock oid clock))
  | .stamp oid => w.withWatched (w.watched.after (Store.stampNow oid w.readings))
  | .clocks readings => { w with readings }

/-- The world after a run of events. -/
def afterAll (w : World) (run : List Event) : World := run.foldl after w

/-- The object at an address. -/
def object? (w : World) (oid : Oid) : Option ManagedObject := w.agent.store.object? oid

/-- What setting the object at an address to what its clock reads answers, with what it leaves
of the objects. -/
def stamping (w : World) (oid : Oid) : EStateM.Result Fault (Watched Store) (Option TimeTicks) :=
  (Store.stampNow oid w.readings).run w.watched

/-- What attaching the object at an address to a clock answers, with what it leaves of the
objects. -/
def attaching (w : World) (oid : Oid) (clock : Clock) :
    EStateM.Result Fault (Watched Store) (Option Unit) :=
  (Store.attachClock oid clock).run w.watched

/-- The value that an event writes at an address: the one that an accepted request
proposes for it. -/
def written? (w : World) (oid : Oid) : Event → Option Value
  | .request request =>
    if (w.agent.serve request).isWriteTo oid then request.proposal? oid else none
  | .attach _ _ | .stamp _ | .clocks _ => none

/-- The values that a run of events writes at an address, the first one first. -/
def written (w : World) (oid : Oid) : List Event → List Value
  | [] => []
  | event :: run => (w.written? oid event).toList ++ (w.after event).written oid run

end World

/-! ## Time stamps and clocks -/

namespace ObjectBody

variable {b : ObjectBody} {stamp : TimeStamp} {told : List Notification} {oid : Oid}

/-- A time stamp is attached to a clock in place of the one before, and nobody is told. -/
theorem attachClock_of_timeStamp (hkind : b.kind = .timeStamp stamp) (clock : Clock) :
    (attachClock oid clock).run ⟨b, told⟩ =
      .ok () ⟨{ b with kind := .timeStamp ⟨some clock⟩ }, told⟩ := by
  obtain ⟨value, kind, rules, observers⟩ := b
  obtain rfl : kind = _ := hkind
  rfl

/-- A time stamp that is attached to a clock is set to what that reads, and its observers are
told. -/
theorem stampNow_of_attached {clock : Clock} (hkind : b.kind = .timeStamp ⟨some clock⟩)
    (readings : Readings) :
    (stampNow oid readings).run ⟨b, told⟩ =
      .ok (readings clock) ⟨{ b with value := .timeTicks (readings clock) },
        told ++ (b.assign oid (.timeTicks (readings clock))).2⟩ := by
  obtain ⟨value, kind, rules, observers⟩ := b
  obtain rfl : kind = _ := hkind
  rfl

/-- A time stamp that is attached to no clock is at fault. It stays as it is, and nobody is
told. -/
theorem stampNow_of_unattached (hkind : b.kind = .timeStamp ⟨none⟩) (readings : Readings) :
    (stampNow oid readings).run ⟨b, told⟩ =
      .error (.unattached oid "time source") ⟨b, told⟩ := by
  obtain ⟨value, kind, rules, observers⟩ := b
  obtain rfl : kind = _ := hkind
  rfl

section OtherKind

variable (hkind : ∀ stamp, b.kind ≠ .timeStamp stamp)
include hkind

/-- Nothing but a time stamp can be attached to a clock. Another object is at fault and stays
as it is, and nobody is told. -/
theorem attachClock_of_otherKind (clock : Clock) :
    (attachClock oid clock).run ⟨b, told⟩ =
      .error (.unattached oid "time stamp kind") ⟨b, told⟩ := by
  obtain ⟨value, kind, rules, observers⟩ := b
  cases kind with
  | timeStamp stamp => exact absurd rfl (hkind stamp)
  | plain | testAndIncr | keyChange _ | ownKeyChange _ => rfl

/-- Nothing but a time stamp can be set to what a clock reads. Another object is at fault and
stays as it is, and nobody is told. -/
theorem stampNow_of_otherKind (readings : Readings) :
    (stampNow oid readings).run ⟨b, told⟩ =
      .error (.unattached oid "time stamp kind") ⟨b, told⟩ := by
  obtain ⟨value, kind, rules, observers⟩ := b
  cases kind with
  | timeStamp stamp => exact absurd rfl (hkind stamp)
  | plain | testAndIncr | keyChange _ | ownKeyChange _ => rfl

end OtherKind

end ObjectBody
namespace Store

variable {α : Type} {update : ObjectBody.Update α} {s : Watched Store} {oid : Oid}
  {body : ObjectBody}

/-- Where there is no object nothing is changed. -/
theorem updateAt_of_none (hnone : s.state.object? oid = none) :
    (updateAt oid update).run s = .ok none s := by
  simp only [EStateM.run, updateAt, hnone]

/-- A change that is granted to the object at an address is made there. -/
theorem updateAt_of_ok {a : α} {w : Watched ObjectBody}
    (hfound : s.state.object? oid = some ⟨oid, body⟩)
    (hgranted : update.run ⟨body, s.told⟩ = .ok a w) :
    (updateAt oid update).run s = .ok (some a) ⟨s.state.put ⟨oid, w.state⟩, w.told⟩ := by
  have hrun : update ⟨body, s.told⟩ = .ok a w := hgranted
  simp only [EStateM.run, updateAt, hfound, hrun]

/-- A fault that leaves the object at an address as it was leaves all as it was. -/
theorem updateAt_of_fault {fault : Fault} (hfound : s.state.object? oid = some ⟨oid, body⟩)
    (hfault : update.run ⟨body, s.told⟩ = .error fault ⟨body, s.told⟩) :
    (updateAt oid update).run s = .error fault s := by
  have hrun : update ⟨body, s.told⟩ = .error fault ⟨body, s.told⟩ := hfault
  have hsame : s.state.put ⟨oid, body⟩ = s.state := put_eq_self hfound
  simp only [EStateM.run, updateAt, hfound, hrun, hsame]

/-- A change to the object at an address leaves there what it leaves of the object. -/
theorem state_after_updateAt (hfound : s.state.object? oid = some ⟨oid, body⟩) :
    (s.after (updateAt oid update)).state =
      s.state.put ⟨oid, ((⟨body, s.told⟩ : Watched ObjectBody).after update).state⟩ := by
  simp only [Watched.after, EStateM.run, updateAt, hfound]
  cases update ⟨body, s.told⟩ <;> rfl

/-- A change to the object at an address leaves the objects at other addresses alone. -/
theorem object?_updateAt_of_ne {other : Oid} (hne : other ≠ oid) :
    (s.after (updateAt oid update)).state.object? other = s.state.object? other := by
  cases hfound : s.state.object? oid with
  | none => rw [Watched.after_of_ok (updateAt_of_none hfound)]
  | some o =>
    obtain ⟨body, rfl⟩ := exists_body_of_object? hfound
    rw [state_after_updateAt hfound]
    exact object?_put_of_ne (o := ⟨oid, _⟩) hne

/-- A store differs from another in one time stamp at most. -/
inductive Restamped (s : Store) : Store → Prop
  /-- The stores are the same. -/
  | same : Restamped s s
  /-- One time stamp has given way to another. -/
  | put {oid : Oid} {body body' : ObjectBody} {stamp stamp' : TimeStamp}
      (hfound : s.object? oid = some ⟨oid, body⟩) (hkind : body.kind = .timeStamp stamp)
      (hkind' : body'.kind = .timeStamp stamp') : Restamped s (s.put ⟨oid, body'⟩)

/-- A change to the object at an address differs in one time stamp at most if it leaves time
stamps what they are, and leaves all else as it was. -/
theorem restamped_updateAt
    (hstamps : ∀ body stamp, body.kind = .timeStamp stamp →
      ∃ stamp', ((⟨body, s.told⟩ : Watched ObjectBody).after update).state.kind =
        .timeStamp stamp')
    (hothers : ∀ body, (∀ stamp, body.kind ≠ .timeStamp stamp) →
      ((⟨body, s.told⟩ : Watched ObjectBody).after update).state = body) :
    s.state.Restamped (s.after (updateAt oid update)).state := by
  cases hfound : s.state.object? oid with
  | none =>
    rw [Watched.after_of_ok (updateAt_of_none hfound)]
    exact .same
  | some o =>
    obtain ⟨body, rfl⟩ := exists_body_of_object? hfound
    rw [state_after_updateAt hfound]
    by_cases hkind : ∃ stamp, body.kind = .timeStamp stamp
    · obtain ⟨stamp, hkind⟩ := hkind
      obtain ⟨stamp', hkind'⟩ := hstamps body stamp hkind
      exact .put hfound hkind hkind'
    · rw [hothers body fun stamp h => hkind ⟨stamp, h⟩, put_eq_self hfound]
      exact .same

/-- Attaching a clock changes one time stamp at most. -/
theorem restamped_attachClock (s : Watched Store) (oid : Oid) (clock : Clock) :
    s.state.Restamped (s.after (attachClock oid clock)).state := by
  refine restamped_updateAt (fun body stamp hkind => ?_) fun body hkind => ?_
  · rw [Watched.after_of_ok (ObjectBody.attachClock_of_timeStamp hkind clock)]
    exact ⟨_, rfl⟩
  · rw [Watched.after_of_fault (ObjectBody.attachClock_of_otherKind hkind clock)]

/-- Setting a time stamp changes no other object. -/
theorem restamped_stampNow (s : Watched Store) (oid : Oid) (readings : Readings) :
    s.state.Restamped (s.after (stampNow oid readings)).state := by
  refine restamped_updateAt (fun body stamp hkind => ?_) fun body hkind => ?_
  · obtain ⟨_ | clock⟩ := stamp
    · rw [Watched.after_of_fault (ObjectBody.stampNow_of_unattached hkind readings)]
      exact ⟨_, hkind⟩
    · rw [Watched.after_of_ok (ObjectBody.stampNow_of_attached hkind readings)]
      exact ⟨_, hkind⟩
  · rw [Watched.after_of_fault (ObjectBody.stampNow_of_otherKind hkind readings)]

variable {s s' : Store}

/-- Where one time stamp may differ, all other objects are the same. -/
theorem Restamped.object?_eq (hrestamped : s.Restamped s') {body : ObjectBody}
    (hfound : s.object? oid = some ⟨oid, body⟩) (hkind : ∀ stamp, body.kind ≠ .timeStamp stamp) :
    s'.object? oid = some ⟨oid, body⟩ := by
  cases hrestamped with
  | same => exact hfound
  | @put oid' body₁ _ stamp _ hstamp hstampKind _ =>
    have hne : oid ≠ oid' := by
      rintro rfl
      obtain rfl : body₁ = body := body_unique hstamp hfound
      exact hkind stamp hstampKind
    rw [object?_put_of_ne hne, hfound]

/-- Where one time stamp may differ, the keys are as bounded. -/
theorem Restamped.keysBounded (hrestamped : s.Restamped s') (hbounded : s.KeysBounded) :
    s'.KeysBounded := by
  cases hrestamped with
  | same => exact hbounded
  | @put oid _ body _ _ _ _ hkind =>
    intro o hmem
    have hfound := object?_of_mem_objects hmem
    by_cases heq : o.oid = oid
    · have hself := object?_put_self s ⟨oid, body⟩
      rw [heq, hself] at hfound
      obtain rfl := Option.some.inj hfound
      exact Kind.keyBounded_of_column?_eq_none (by rw [hkind]; rfl)
    · rw [object?_put_of_ne heq] at hfound
      exact hbounded o (mem_objects_of_object? hfound)

end Store

namespace World

variable {w : World} {oid : Oid}

/-- Events keep the keys of an agent bounded. -/
theorem keysBounded_after (hbounded : w.agent.store.KeysBounded) (event : Event) :
    (w.after event).agent.store.KeysBounded := by
  cases event with
  | request request => exact Agent.keysBounded_afterAll hbounded [request]
  | attach oid clock => exact (Store.restamped_attachClock w.watched oid clock).keysBounded hbounded
  | stamp oid => exact (Store.restamped_stampNow w.watched oid w.readings).keysBounded hbounded
  | clocks readings => exact hbounded

/-- What happens to an object that is no time stamp: an event writes one value, which is
what the object is proposed and lets through, or it writes nothing and the object stays
as it was. -/
theorem written_or_kept {body : ObjectBody} (hfound : w.object? oid = some ⟨oid, body⟩)
    (hkind : ∀ stamp, body.kind ≠ .timeStamp stamp) (event : Event) :
    (∃ proposed c, w.written? oid event = some proposed ∧
      body.kind.commit body.value proposed = .ok c ∧
      (w.after event).object? oid = some ⟨oid, { body with value := c.stored }⟩) ∨
    w.written? oid event = none ∧ (w.after event).object? oid = some ⟨oid, body⟩ := by
  cases event with
  | request request =>
    rcases Agent.writes_or_keeps w.agent request oid with
      ⟨hwrite, requester, body', proposed, c, hwrites⟩ | ⟨hnot, hkept⟩
    · obtain rfl : body = body' := Agent.body_of_writes hfound hwrites
      have hproposal := hwrites.proposal?_eq
      rw [Agent.request_serve] at hproposal
      refine .inl ⟨proposed, c, ?_, hwrites.committed, hwrites.stored⟩
      rw [written?, if_pos hwrite, hproposal]
    · refine .inr ⟨?_, hkept.trans hfound⟩
      rw [written?, if_neg (by simp [hnot])]
  | attach address clock =>
    have hrestamped := Store.restamped_attachClock w.watched address clock
    exact .inr ⟨rfl, hrestamped.object?_eq hfound hkind⟩
  | stamp address =>
    have hrestamped := Store.restamped_stampNow w.watched address w.readings
    exact .inr ⟨rfl, hrestamped.object?_eq hfound hkind⟩
  | clocks readings => exact .inr ⟨rfl, hfound⟩

end World

end SnmpSet
