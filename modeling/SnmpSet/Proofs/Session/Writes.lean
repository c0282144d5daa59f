import SnmpSet.Proofs.Agent.Atomicity
import SnmpSet.Proofs.Session.Basic

/-!
# What one request does to one object

A request writes an object if it is accepted and has a binding for it. It then
has only one, which has passed the policy, prepare and check, and the object takes
the value that its kind makes of the proposal. Every other request leaves the
object as it was, also one that halts the agent. An object whose prepare and check let
nothing through is stuck: no request writes it, and none writes anything along with it.
-/

namespace SnmpSet

/-- Of bindings for different addresses, only one is for the address of any of them. -/
theorem filter_oid_eq_singleton {bindings : List VarBind}
    (hnodup : (bindings.map VarBind.oid).Nodup) {b : VarBind} (hb : b ∈ bindings) :
    bindings.filter (fun b' => b'.oid = b.oid) = [b] := by
  induction bindings with
  | nil => simp at hb
  | cons first rest ih =>
    obtain ⟨hfirst, hrest⟩ := List.nodup_cons.mp hnodup
    rcases List.mem_cons.mp hb with rfl | hmem
    · have hnone : rest.filter (fun b' => b'.oid = b.oid) = [] := by
        rw [List.filter_eq_nil_iff]
        intro b' hb' heq
        have hoid : b'.oid = b.oid := by simpa using heq
        exact hfirst (hoid ▸ List.mem_map_of_mem hb')
      simp [hnone]
    · have hne : first.oid ≠ b.oid := by
        intro heq
        exact hfirst (heq ▸ List.mem_map_of_mem hmem)
      simpa [hne] using ih hrest hmem

/-- An exchange writes an object: its request is accepted, and the one binding for
the object is allowed, prepared, checked and committed. -/
structure Exchange.Writes (x : Exchange) (oid : Oid) (requester : Requester) (body : ObjectBody)
    (proposed : Value) (c : Committed) : Prop where
  request_eq : ∃ bindings, x.request = .set requester bindings ∧
    bindings.filter (fun b => b.oid = oid) = [⟨oid, proposed⟩]
  reply_eq : ∃ reports, x.reply = .answered (.response (.accepted reports)) ∧
    reports.filter (fun b => b.oid = oid) = [⟨oid, c.reported⟩]
  found : x.before.store.object? oid = some ⟨oid, body⟩
  allowed : x.before.policy.allows requester oid = true
  prepared : (body.prepare proposed requester).verdict = .ok ()
  checked : (body.check proposed).verdict = .ok ()
  committed : body.kind.commit body.value proposed = .ok c
  stored : x.after.store.object? oid = some ⟨oid, { body with value := c.stored }⟩

/-- Where only one binding is for an address, its value is the proposal. -/
theorem proposal?_of_filter_eq_singleton {requester : Requester} {bindings : List VarBind}
    {oid : Oid} {proposed : Value}
    (hfilter : bindings.filter (fun b => b.oid = oid) = [⟨oid, proposed⟩]) :
    (Request.set requester bindings).proposal? oid = some proposed := by
  have hfind : (bindings.find? fun b => b.oid = oid) = some ⟨oid, proposed⟩ := by
    rw [← List.head?_filter, hfilter]
    rfl
  simp [Request.proposal?, hfind]

/-- What is proposed to an object that is written is its one proposal. -/
theorem Exchange.Writes.proposal?_eq {x : Exchange} {oid : Oid} {requester : Requester}
    {body : ObjectBody} {proposed : Value} {c : Committed}
    (hwrites : x.Writes oid requester body proposed c) :
    x.request.proposal? oid = some proposed := by
  obtain ⟨bindings, hrequest, hfilter⟩ := hwrites.request_eq
  rw [hrequest, proposal?_of_filter_eq_singleton hfilter]

/-- An object is stuck if no proposal of anybody gets past its prepare and check. -/
def ObjectBody.Stuck (b : ObjectBody) : Prop :=
  ∀ proposed requester, (b.prepare proposed requester).verdict = .ok () →
    (b.check proposed).verdict ≠ .ok ()

/-- Nobody writes an object that is stuck. -/
theorem Exchange.Writes.not_stuck {x : Exchange} {oid : Oid} {requester : Requester}
    {body : ObjectBody} {proposed : Value} {c : Committed}
    (hwrites : x.Writes oid requester body proposed c) : ¬body.Stuck := fun hstuck =>
  hstuck proposed requester hwrites.prepared hwrites.checked

namespace Agent

variable {a : Agent} {requester : Requester} {bindings : List VarBind}

/-- What a request writes is the object that the agent has at the address. -/
theorem body_of_writes {request : Request} {oid : Oid} {body body' : ObjectBody}
    {proposed : Value} {c : Committed} (hfound : a.store.object? oid = some ⟨oid, body⟩)
    (hwrites : (a.serve request).Writes oid requester body' proposed c) : body = body' := by
  have hfound' := hwrites.found
  rw [before_serve] at hfound'
  exact Store.body_unique hfound hfound'

/-- A request that is answered with another status than success leaves the agent
as it was. -/
theorem agent_set_of_refused {r : Response}
    (hanswer : (a.set requester bindings).answer = .response r) (hstatus : r.status ≠ .noError) :
    (a.set requester bindings).agent = a := by
  cases Settled.of_set a requester bindings with
  | accepted haccepts =>
    obtain rfl := Answer.response.inj ((set_of_accepts haccepts).1.symm.trans hanswer)
    exact absurd rfl hstatus
  | tooBig hbig =>
    rw [set_of_tooBig hbig]
    rfl
  | refused _ hrefused => exact hrefused.agent_eq
  | halted _ _ hhalted _ _ => simp [hhalted] at hanswer

/-- An accepted request writes each object that it addresses. -/
theorem writes_of_accepts {ts : List Target} (haccepts : a.Accepts requester bindings ts)
    {oid : Oid} (haddressed : oid ∈ bindings.map VarBind.oid) :
    ∃ body proposed c,
      (a.serve (.set requester bindings)).Writes oid requester body proposed c := by
  obtain ⟨hbindings, hfresh, hnodup, -⟩ := targetsOf_ok haccepts.paired
  obtain ⟨hanswer, hagent, -⟩ := set_of_accepts haccepts
  rw [← hbindings] at haddressed hnodup
  obtain ⟨_, hb, rfl⟩ := List.mem_map.mp haddressed
  obtain ⟨t, ht, rfl⟩ := List.mem_map.mp hb
  obtain ⟨hallowed, hprepared⟩ := Target.prepares_iff.mp (haccepts.prepares t ht)
  refine ⟨t.body, t.write.proposed, t.outcome, ?_⟩
  constructor
  · exact ⟨bindings, rfl, by rw [← hbindings]; exact filter_oid_eq_singleton hnodup hb⟩
  · refine ⟨_, congrArg Reply.answered hanswer, ?_⟩
    have hreports : ((ts.map fun u => (⟨u.write.oid, u.outcome.reported⟩ : VarBind)).map
        VarBind.oid).Nodup := by
      simpa [Function.comp_def, Target.binding] using hnodup
    exact filter_oid_eq_singleton hreports (List.mem_map_of_mem ht)
  · exact (hfresh t ht).found
  · exact hallowed
  · exact hprepared
  · exact haccepts.checks t ht
  · exact haccepts.commits t ht
  · change (a.set requester bindings).agent.store.object? t.write.oid = _
    rw [hagent]
    exact object?_storeAfter_of_mem hnodup ht

/-- An accepted request with a binding for an address writes the object there. -/
theorem writes_of_isWriteTo {request : Request} {oid : Oid}
    (hwrite : (a.serve request).isWriteTo oid = true) :
    ∃ requester body proposed c, (a.serve request).Writes oid requester body proposed c := by
  cases request with
  | get _ | propose _ _ => cases hwrite
  | set requester bindings =>
    obtain ⟨haccepted, haddresses⟩ := Bool.and_eq_true_iff.mp hwrite
    have haddressed : oid ∈ bindings.map VarBind.oid := List.contains_iff_mem.mp haddresses
    have hsuccess {r : Response} (hanswer : (a.set requester bindings).answer = .response r) :
        r.isAccepted = true := by
      simpa [serve, Reply.isAccepted, hanswer] using haccepted
    cases Settled.of_set a requester bindings with
    | accepted haccepts => exact ⟨requester, writes_of_accepts haccepts haddressed⟩
    | tooBig hbig =>
      have hanswer : (a.set requester bindings).answer =
          .response (.refused (.tooBig bindings.length a.maxBindings) 0 bindings) := by
        rw [set_of_tooBig hbig]
        rfl
      cases hsuccess hanswer
    | @refused _ _ e _ hrefused =>
      cases e <;> cases hsuccess hrefused.answer_eq
    | halted _ _ hanswer _ _ =>
      simp [serve, Reply.isAccepted, hanswer] at haccepted

/-- Each request either writes the object at an address or leaves it as it was. -/
theorem writes_or_keeps (a : Agent) (request : Request) (oid : Oid) :
    ((a.serve request).isWriteTo oid = true ∧ ∃ requester body proposed c,
        (a.serve request).Writes oid requester body proposed c) ∨
      (a.serve request).isWriteTo oid = false ∧
        (a.serve request).after.store.object? oid = a.store.object? oid := by
  cases hwrite : (a.serve request).isWriteTo oid with
  | true => exact .inl ⟨rfl, writes_of_isWriteTo hwrite⟩
  | false =>
    refine .inr ⟨rfl, ?_⟩
    cases request with
    | get _ | propose _ _ => rfl
    | set requester bindings =>
      cases Settled.of_set a requester bindings with
      | accepted haccepts =>
        obtain ⟨hanswer, hagent, -⟩ := set_of_accepts haccepts
        have hnot : oid ∉ bindings.map VarBind.oid := by
          simpa [Exchange.isWriteTo, serve, Reply.isAccepted, hanswer, Request.addresses,
            Response.accepted, Response.isAccepted, ErrorStatus.isSuccess] using hwrite
        simp only [serve, hagent]
        obtain ⟨rfl, -, -, -⟩ := targetsOf_ok haccepts.paired
        exact object?_storeAfter_of_not_mem hnot
      | tooBig hbig => simp only [serve, set_of_tooBig hbig, answerAtOnce]
      | refused _ hrefused => simp only [serve, hrefused.agent_eq]
      | halted _ _ _ hagent _ => simp only [serve, hagent]

/-! ## Objects that are stuck -/

variable {oid : Oid} {body : ObjectBody}

/-- No request writes an object that is stuck, and each leaves it as it was. -/
theorem keeps_stuck (hfound : a.store.object? oid = some ⟨oid, body⟩) (hstuck : body.Stuck)
    (request : Request) :
    (a.serve request).isWriteTo oid = false ∧
      (a.serve request).after.store.object? oid = some ⟨oid, body⟩ := by
  rcases writes_or_keeps a request oid with
    ⟨-, requester, body', proposed, c, hwrites⟩ | ⟨hnot, hkept⟩
  · obtain rfl : body = body' := body_of_writes hfound hwrites
    exact absurd hstuck hwrites.not_stuck
  · exact ⟨hnot, hkept.trans hfound⟩

/-- No session changes an object that is stuck. -/
theorem object?_afterAll_of_stuck (hfound : a.store.object? oid = some ⟨oid, body⟩)
    (hstuck : body.Stuck) (requests : List Request) :
    (a.afterAll requests).store.object? oid = some ⟨oid, body⟩ := by
  induction requests generalizing a with
  | nil => exact hfound
  | cons request requests ih => exact ih (keeps_stuck hfound hstuck request).2

/-- A batch with a binding for an object that is stuck tells nobody anything. -/
theorem notified_of_stuck (hfound : a.store.object? oid = some ⟨oid, body⟩) (hstuck : body.Stuck)
    (haddressed : oid ∈ bindings.map VarBind.oid) (requester : Requester) :
    (a.set requester bindings).notified = [] := by
  by_cases hbig : a.maxBindings < bindings.length
  · rw [set_of_tooBig hbig]
    rfl
  have hne : bindings ≠ [] := by
    rintro rfl
    simp at haddressed
  cases hpaired : targetsOf a.store [] bindings with
  | error failure =>
    simp only [set, resolve, if_neg hne, if_neg hbig, hpaired]
    rfl
  | ok ts =>
    obtain ⟨rfl, hfresh, -, -⟩ := targetsOf_ok hpaired
    rw [set_of_paired hne (Nat.not_lt.mp hbig) hpaired]
    obtain ⟨_, hb, hoid⟩ := List.mem_map.mp haddressed
    obtain ⟨t, ht, rfl⟩ := List.mem_map.mp hb
    obtain rfl : t.write.oid = oid := hoid
    obtain rfl : body = t.body := Store.body_unique hfound (hfresh t ht).found
    refine Run.notified_of_unready (fun u hu => (hfresh u hu).created) ht fun hprepares => ?_
    exact hstuck t.write.proposed requester (Target.prepares_iff.mp hprepares).2

/-- A batch with a binding for an object that is stuck is refused, changes nothing and tells
nobody anything. -/
theorem set_of_stuck (hbounded : a.store.KeysBounded)
    (hfound : a.store.object? oid = some ⟨oid, body⟩) (hstuck : body.Stuck)
    (haddressed : oid ∈ bindings.map VarBind.oid) (requester : Requester) :
    (∃ r, (a.set requester bindings).answer = .response r ∧ r.status ≠ .noError) ∧
      (a.set requester bindings).agent = a ∧ (a.set requester bindings).notified = [] := by
  have hsilent := notified_of_stuck hfound hstuck haddressed requester
  rcases accepts_or_refused hbounded requester bindings with ⟨ts, haccepts⟩ | ⟨hanswer, hagent⟩
  · obtain ⟨body', proposed, c, hwrites⟩ := writes_of_accepts haccepts haddressed
    obtain rfl : body = body' := body_of_writes hfound hwrites
    exact absurd hstuck hwrites.not_stuck
  · exact ⟨hanswer, hagent, hsilent⟩

end Agent

end SnmpSet
