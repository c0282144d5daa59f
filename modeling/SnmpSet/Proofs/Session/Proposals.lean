import SnmpSet.Proofs.Completeness
import SnmpSet.Proofs.Session.History

/-!
# Proposals and requests for one object

A proposal is judged by the object that it is for and is not stored. A request with one
binding puts the same questions to the same object, and only then commits. So what an
object says of a proposal foretells what comes of a request for it, up to a commit that
may still be refused.
-/

namespace SnmpSet

namespace Agent

variable {a : Agent} {requester : Requester} {b : VarBind} {body : ObjectBody} {e : Refusal}

section Singleton

variable (hroom : 1 ≤ a.maxBindings) (hfound : a.store.object? b.oid = some ⟨b.oid, body⟩)
  (hallowed : a.policy.allows requester b.oid = true)
include hroom hfound hallowed

/-- A single binding that its object refuses at prepare or at check is refused for the
reason that the object gives. -/
theorem refusedAt_singleton_of_judged
    (hrefused : ((body.prepare b.value requester).andThen fun _ =>
      (body.check b.value).ofWrite).verdict = .error (.refused e)) :
    ∃ h, a.RefusedAt requester [b] h 0 e := by
  have hpaired : targetsOf a.store [] (([] ++ [Target.ofBinding b body]).map Target.binding) =
      .ok ([] ++ [.ofBinding b body]) := targetsOf_singleton hfound
  have hjudgement : (Target.ofBinding b body).prepareJudgement a.policy requester =
      body.prepare b.value requester := if_pos hallowed
  rcases Judgement.verdict_andThen_eq_error.mp hrefused with hunprepared | ⟨hprepared, hunchecked⟩
  · exact ⟨.prepare, refusedAt_of_unprepared (by simpa using hroom) hpaired (by simp)
      (by rw [hjudgement, hunprepared])⟩
  · have hprepares : (Target.ofBinding b body).Prepares a.policy requester :=
      Target.prepares_iff.mpr ⟨hallowed, hprepared⟩
    obtain ⟨_, hunchecked, ⟨⟩⟩ := mapError_eq_error.mp hunchecked
    exact ⟨.check, refusedAt_of_unchecked (by simpa using hroom) hpaired
      (List.forall_mem_singleton.mpr hprepares) (by simp) hunchecked⟩

/-- A single binding that is refused at commit is refused as failed there. -/
theorem refusedAt_singleton_of_uncommitted
    (hprepared : (body.prepare b.value requester).verdict = .ok ())
    (hchecked : (body.check b.value).verdict = .ok ())
    (hrefused : body.kind.commit body.value b.value = .error (.refused e)) :
    a.RefusedAt requester [b] .commit 0 (Target.commitRefusal e) := by
  have hpaired : targetsOf a.store [] (([] ++ [Target.ofBinding b body]).map Target.binding) =
      .ok ([] ++ [.ofBinding b body]) := targetsOf_singleton hfound
  have hprepares : (Target.ofBinding b body).Prepares a.policy requester :=
    Target.prepares_iff.mpr ⟨hallowed, hprepared⟩
  exact refusedAt_of_uncommitted (by simpa using hroom) hpaired
    (List.forall_mem_singleton.mpr hprepares) (List.forall_mem_singleton.mpr hchecked) (by simp)
    hrefused

end Singleton

/-- With bounded keys no proposal halts the agent. -/
theorem verdict_propose_ne_halted (hbounded : body.kind.KeyBounded) (v : Value) :
    (body.propose v).verdict ≠ .error .halted := by
  intro hhalted
  rcases Judgement.verdict_andThen_eq_error.mp hhalted with hprepare | ⟨-, hcheck⟩
  · exact ObjectBody.verdict_prepare_ne_halted hbounded v none hprepare
  · obtain ⟨_, -, ⟨⟩⟩ := mapError_eq_error.mp hcheck

/-- A proposal changes nothing and is told to nobody. If the object at its address refuses
it, then a request of nobody in particular with that one binding is refused with the same
status. If the object accepts it, then so is the request, except that a key whose protocol
derives a key of the wrong length fails at commit. -/
theorem set_follows_proposal {oid : Oid} (hroom : 1 ≤ a.maxBindings)
    (hfound : a.store.object? oid = some ⟨oid, body⟩) (hbounded : body.kind.KeyBounded)
    (hallowed : a.policy.allows none oid = true) (v : Value) :
    (a.serve (.propose oid v)).after = a ∧ a.notifiedBy (.propose oid v) = [] ∧
    ∃ verdict r, (a.serve (.propose oid v)).reply = .judged (some verdict) ∧
      (a.set none [⟨oid, v⟩]).answer = .response r ∧
      (∀ failure, verdict = .error failure →
        ∃ e, failure = .refused e ∧ r.status = e.status ∧ r.errorIndex = 1) ∧
      (verdict = .ok () →
        ¬body.Misderives v ∧ r.status = .noError ∨
          body.Misderives v ∧ r.status = .commitFailed ∧ r.errorIndex = 1) := by
  refine ⟨rfl, rfl, (body.propose v).verdict, ?_⟩
  have hreply : (a.serve (.propose oid v)).reply = .judged (some (body.propose v).verdict) := by
    simp [serve, hfound]
  cases hverdict : (body.propose v).verdict with
  | error failure =>
    cases failure with
    | refused e =>
      obtain ⟨h, hrefused⟩ := refusedAt_singleton_of_judged (b := ⟨oid, v⟩) hroom hfound hallowed
        hverdict
      refine ⟨_, hverdict ▸ hreply, hrefused.answer_eq, ?_, by simp⟩
      rintro _ ⟨⟩
      exact ⟨e, rfl, rfl, rfl⟩
    | halted => exact absurd hverdict (verdict_propose_ne_halted hbounded v)
  | ok _ =>
    obtain ⟨hprepared, hchecked⟩ := Judgement.verdict_andThen_eq_ok.mp hverdict
    rw [Judgement.verdict_ofWrite, mapError_eq_ok] at hchecked
    have hfits := ObjectBody.fits_of_prepare_check hprepared hchecked
    by_cases hmisderives : body.Misderives v
    · obtain ⟨reason, hrefused⟩ := hfits.commit_of_misderives hmisderives
      have hfailed := refusedAt_singleton_of_uncommitted (b := ⟨oid, v⟩) hroom hfound hallowed
        hprepared hchecked hrefused
      exact ⟨_, hverdict ▸ hreply, hfailed.answer_eq, by simp,
        fun _ => .inr ⟨hmisderives, rfl, rfl⟩⟩
    · obtain ⟨c, hcommit⟩ := hfits.exists_commit hmisderives
      obtain ⟨hanswer, -⟩ := set_singleton (b := ⟨oid, v⟩) hroom hfound hallowed hprepared hchecked
        hcommit
      exact ⟨_, hverdict ▸ hreply, hanswer, by simp, fun _ => .inl ⟨hmisderives, rfl⟩⟩

/-- A counter that has outgrown the range of its rule. -/
def outgrownCounter : ManagedObject :=
  (ManagedObject.testAndIncr ⟨[1, 1]⟩ 7).withRule (.integerRange ⟨0, 5⟩)

/-- A key whose protocol never derives a key of the right length. -/
def misderivedKey : ManagedObject := .keyChange ⟨[1, 3]⟩ (.failing 1) .empty [9]

/-- An agent with these two objects. -/
def withOutgrownCounter : Agent := .ofStore ((Store.empty.put outgrownCounter).put misderivedKey)

/-- Both the counter and its rule object to a number, and the counter comes first for a
proposal as for a request. Nobody objects to a value for the key, which fails at commit. -/
theorem withOutgrownCounter_follows :
    1 ≤ withOutgrownCounter.maxBindings ∧ outgrownCounter.body.kind.KeyBounded ∧
    (∃ e, (outgrownCounter.body.check (.integer 8)).verdict = .error e ∧
      e.status = .wrongValue) ∧
    (∃ e r, (withOutgrownCounter.serve (.propose ⟨[1, 1]⟩ (.integer 8))).reply =
        .judged (some (.error (.refused e))) ∧
      (withOutgrownCounter.set none [⟨⟨[1, 1]⟩, .integer 8⟩]).answer = .response r ∧
      e.status = .inconsistentValue ∧ r.status = .inconsistentValue ∧ r.errorIndex = 1) ∧
    misderivedKey.body.kind.KeyBounded ∧
    ∃ r, (withOutgrownCounter.serve (.propose ⟨[1, 3]⟩ (.octets [3, 4]))).reply =
        .judged (some (.ok ())) ∧
      (withOutgrownCounter.set none [⟨⟨[1, 3]⟩, .octets [3, 4]⟩]).answer = .response r ∧
      r.status = .commitFailed ∧ r.errorIndex = 1 := by
  have hroom : 1 ≤ withOutgrownCounter.maxBindings := by decide
  have hcounter : outgrownCounter.body.kind.KeyBounded := by decide
  have hkey : misderivedKey.body.kind.KeyBounded := by decide
  have hfound : withOutgrownCounter.store.object? ⟨[1, 1]⟩ = some outgrownCounter := rfl
  have hfound' : withOutgrownCounter.store.object? ⟨[1, 3]⟩ = some misderivedKey := rfl
  obtain ⟨e, hobjects, hstatus⟩ : ∃ e,
      (withOutgrownCounter.serve (.propose ⟨[1, 1]⟩ (.integer 8))).reply =
        .judged (some (.error (.refused e))) ∧ e.status = .inconsistentValue := ⟨_, rfl, rfl⟩
  have haccepts : (withOutgrownCounter.serve (.propose ⟨[1, 3]⟩ (.octets [3, 4]))).reply =
      .judged (some (.ok ())) := rfl
  refine ⟨hroom, hcounter, ⟨_, rfl, rfl⟩, ?_, hkey, ?_⟩
  · obtain ⟨-, -, verdict, r, hreply, hanswer, hrefused, -⟩ :=
      set_follows_proposal hroom hfound hcounter rfl (.integer 8)
    obtain rfl := Option.some.inj (Reply.judged.inj (hreply.symm.trans hobjects))
    obtain ⟨_, ⟨⟩, hsame, hindex⟩ := hrefused (.refused e) rfl
    exact ⟨e, r, hobjects, hanswer, hstatus, hsame.trans hstatus, hindex⟩
  · obtain ⟨-, -, verdict, r, hreply, hanswer, -, haccepted⟩ :=
      set_follows_proposal hroom hfound' hkey rfl (.octets [3, 4])
    obtain rfl := Option.some.inj (Reply.judged.inj (hreply.symm.trans haccepts))
    have hmisderives : misderivedKey.body.Misderives (.octets [3, 4]) :=
      ⟨_, rfl, [9], [3, 4], rfl, rfl, by decide⟩
    rcases haccepted rfl with ⟨hderives, -⟩ | ⟨-, hfailed, hindex⟩
    · exact absurd hmisderives hderives
    · exact ⟨r, haccepts, hanswer, hfailed, hindex⟩

end Agent

end SnmpSet
