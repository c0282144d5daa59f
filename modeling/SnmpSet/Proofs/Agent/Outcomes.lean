import SnmpSet.Proofs.Agent.Blame
import SnmpSet.Proofs.KeyChange.Commit

/-!
# What comes of a request

A request is accepted, or it carries too many bindings, or one binding is to
blame. Where keys are so long that their length overflows a machine word, the
agent may also halt at prepare. A request that is not accepted leaves the agent
as it was.
-/

namespace SnmpSet

/-- The keys of every key-change column are bounded. -/
def Store.KeysBounded (s : Store) : Prop := ∀ o ∈ s.objects, o.body.kind.KeyBounded

instance (s : Store) : Decidable s.KeysBounded :=
  inferInstanceAs (Decidable (∀ o ∈ s.objects, o.body.kind.KeyBounded))

namespace Agent

variable {a : Agent} {requester : Requester} {bindings : List VarBind} {ts : List Target}

/-- A request is accepted on these targets: it is not too big, its bindings are
paired with the targets, and each of them passes all stages. -/
structure Accepts (a : Agent) (requester : Requester) (bindings : List VarBind)
    (ts : List Target) : Prop where
  small : bindings.length ≤ a.maxBindings
  paired : targetsOf a.store [] bindings = .ok ts
  prepares : ∀ t ∈ ts, t.Prepares a.policy requester
  checks : ∀ t ∈ ts, t.Checks
  commits : ∀ t ∈ ts, t.Commits

/-- A request that is not empty or too big and whose bindings are paired runs its batch. -/
theorem set_of_paired (hne : bindings ≠ []) (hsmall : bindings.length ≤ a.maxBindings)
    (hpaired : targetsOf a.store [] bindings = .ok ts) :
    a.set requester bindings =
      { answer := answerOf bindings (Run.all a.policy requester ts)
        agent := { a with store := writeBack a.store (Run.all a.policy requester ts).targets }
        asked := (Run.all a.policy requester ts).asked
        notified := (Run.all a.policy requester ts).notified } := by
  rw [set, resolve_eq_ok.mpr ⟨hne, hsmall, hpaired⟩]

/-- A request with too many bindings is refused without a look at them. -/
theorem set_of_tooBig (hbig : a.maxBindings < bindings.length) :
    a.set requester bindings =
      a.answerAtOnce (.refused (.tooBig bindings.length a.maxBindings) 0 bindings) := by
  have hne : bindings ≠ [] := by
    rintro rfl
    simp at hbig
  simp [set, resolve, hne, hbig]

/-- An accepted request reports what each commit reports, stores what each commit
stores, and tells the observers of each object once. -/
theorem set_of_accepts (haccepts : a.Accepts requester bindings ts) :
    (a.set requester bindings).answer =
        .response (.accepted (ts.map fun t => ⟨t.write.oid, t.outcome.reported⟩)) ∧
      (a.set requester bindings).agent =
        { a with store := writeBack a.store (ts.map fun t => t.committed t.outcome) } ∧
      (a.set requester bindings).notified =
        ts.flatMap fun t => t.notices t.body.value t.outcome.stored := by
  obtain ⟨hbindings, hfresh, -, -⟩ := targetsOf_ok haccepts.paired
  by_cases hempty : bindings = []
  · obtain rfl : ts = [] := by simpa [hempty] using hbindings
    simp [set, resolve, hempty, answerAtOnce, writeBack]
  · obtain ⟨htargets, hstop, hnotified⟩ :=
      Run.all_ends_of_completing (fun t ht => (hfresh t ht).created) haccepts.prepares
        haccepts.checks haccepts.commits
    rw [set_of_paired hempty haccepts.small haccepts.paired]
    refine ⟨?_, ?_, hnotified⟩
    · simp only [answerOf, answerTo, hstop, htargets, List.map_map]
      rfl
    · simp only [htargets]

/-- A request with a single binding that is allowed, prepared, checked and committed
is accepted, and stores what the commit stores. -/
theorem set_singleton {b : VarBind} {body : ObjectBody} {c : Committed}
    (hroom : 1 ≤ a.maxBindings) (hfound : a.store.object? b.oid = some ⟨b.oid, body⟩)
    (hallowed : a.policy.allows requester b.oid = true)
    (hprepare : (body.prepare b.value requester).verdict = .ok ())
    (hcheck : (body.check b.value).verdict = .ok ())
    (hcommit : body.kind.commit body.value b.value = .ok c) :
    (a.set requester [b]).answer = .response (.accepted [⟨b.oid, c.reported⟩]) ∧
      (a.set requester [b]).agent =
        { a with store := a.store.put ⟨b.oid, { body with value := c.stored }⟩ } := by
  have hprepares : (Target.ofBinding b body).Prepares a.policy requester :=
    Target.prepares_iff.mpr ⟨hallowed, hprepare⟩
  obtain ⟨hcommits, houtcome⟩ := Target.commits_of_ok (t := .ofBinding b body) hcommit
  have haccepts : a.Accepts requester [b] [.ofBinding b body] :=
    ⟨hroom, targetsOf_singleton hfound, List.forall_mem_singleton.mpr hprepares,
      List.forall_mem_singleton.mpr hcheck, List.forall_mem_singleton.mpr hcommits⟩
  obtain ⟨hanswer, hagent, -⟩ := set_of_accepts haccepts
  rw [List.map_singleton, houtcome] at hanswer hagent
  exact ⟨hanswer, hagent⟩

/-- A batch that ends with every object as it was leaves the agent alone. -/
theorem set_of_run_unchanged {targets : List Target} {stop : Option (Nat × Stop)}
    {told : List Notification} (hne : bindings ≠ []) (hsmall : bindings.length ≤ a.maxBindings)
    (hpaired : targetsOf a.store [] bindings = .ok ts)
    (hends : (Run.all a.policy requester ts).Ends targets stop told)
    (hsame : ∀ t ∈ targets, a.store.object? t.write.oid = some ⟨t.write.oid, t.body⟩) :
    (a.set requester bindings).answer = answerOf bindings (Run.all a.policy requester ts) ∧
      (a.set requester bindings).agent = a ∧ (a.set requester bindings).notified = told := by
  obtain ⟨htargets, -, hnotified⟩ := hends
  rw [set_of_paired hne hsmall hpaired]
  refine ⟨rfl, ?_, hnotified⟩
  simp only [htargets, writeBack_eq_self hsame]

/-- A request is refused for a binding, and the agent is as it was. -/
structure RefusedAt (a : Agent) (requester : Requester) (bindings : List VarBind) (h : Hurdle)
    (position : Nat) (e : Refusal) : Prop where
  blames : a.Blames requester bindings h position e
  answer_eq : (a.set requester bindings).answer = .response (.refused e (position + 1) bindings)
  agent_eq : (a.set requester bindings).agent = a

/-- A request whose bindings cannot be paired is refused for the first one that is
not the only binding for an object of the store. -/
theorem refusedAt_of_unpaired {position : Nat} {e : Refusal} (hne : bindings ≠ [])
    (hsmall : bindings.length ≤ a.maxBindings)
    (hunpaired : targetsOf a.store [] bindings = .error (position, e)) :
    a.RefusedAt requester bindings .address position e := by
  obtain ⟨before, b, after, rfl, rfl, haddressed, -, hb⟩ := targetsOf_error hunpaired
  rw [List.append_nil] at hb
  have hset : a.set requester (before ++ b :: after) =
      a.answerAtOnce (.refused e (before.length + 1) (before ++ b :: after)) := by
    simp only [set, resolve, if_neg hne, if_neg (Nat.not_lt.mpr hsmall), hunpaired]
  refine ⟨⟨?_, ?_, ?_⟩, by rw [hset]; rfl, by rw [hset]; rfl⟩
  · exact (refusalAt?_length before b after .address).trans hb
  · intro j hj
    exact (refusalAt?_append _ _ hj).trans (haddressed.refusalAt?_eq_none j)
  · intro g hg
    simp [Hurdle.rank] at hg

/-- Fresh targets that are prepared pass the hurdle of prepare. -/
theorem refusalAt?_prepare_eq_none (hfresh : ∀ t ∈ ts, t.Fresh a.store)
    (hprepares : ∀ t ∈ ts, t.Prepares a.policy requester) (j : Nat) :
    a.refusalAt? requester (ts.map Target.binding) .prepare j = none :=
  refusalAt?_eq_none_of_forall (fun t ht before => by
    rw [refusal?_prepare (hfresh t ht)]
    exact Judgement.refusal?_eq_none.mpr (.inl (hprepares t ht))) j

/-- Fresh targets that are checked pass the hurdle of check. -/
theorem refusalAt?_check_eq_none (hfresh : ∀ t ∈ ts, t.Fresh a.store)
    (hchecks : ∀ t ∈ ts, t.Checks) (j : Nat) :
    a.refusalAt? requester (ts.map Target.binding) .check j = none :=
  refusalAt?_eq_none_of_forall (fun t ht before => by
    rw [refusal?_check (hfresh t ht), Judgement.refusal?_ofWrite_eq_none]
    exact hchecks t ht) j

/-- Fresh targets that commit pass the hurdle of commit. -/
theorem refusalAt?_commit_eq_none (hfresh : ∀ t ∈ ts, t.Fresh a.store)
    (hcommits : ∀ t ∈ ts, t.Commits) (j : Nat) :
    a.refusalAt? requester (ts.map Target.binding) .commit j = none :=
  refusalAt?_eq_none_of_forall
    (fun t ht before => refusal?_commit_of_commits (hfresh t ht) before (hcommits t ht)) j

/-- The targets of a batch that fails at prepare hold the objects of the store. -/
theorem found_of_unprepared {before after : List Target} {t : Target}
    (hfresh : ∀ u ∈ before ++ t :: after, u.Fresh a.store) (failure : WriteFailure) :
    ∀ u ∈ before.map (Target.inPhase · .prepared) ++ t.failedBy failure :: after,
      a.store.object? u.write.oid = some ⟨u.write.oid, u.body⟩ := by
  simp only [List.mem_append, List.mem_cons, List.mem_map]
  rintro _ (⟨u, hu, rfl⟩ | rfl | hu)
  · exact (hfresh u (by simp [hu])).found
  · rw [Target.oid_failedBy, Target.body_failedBy]
    exact (hfresh t (by simp)).found
  · exact (hfresh _ (by simp [hu])).found

section Refused

variable {before after : List Target} {t : Target} {e : Refusal}
  (hsmall : ((before ++ t :: after).map Target.binding).length ≤ a.maxBindings)
  (hpaired : targetsOf a.store [] ((before ++ t :: after).map Target.binding) =
    .ok (before ++ t :: after))
include hsmall hpaired

/-- A batch that ends at a target with every object as it was is refused for the
binding of that target, if it is the first to fail a hurdle. -/
theorem refusedAt_of_run {h : Hurdle} {targets : List Target} {told : List Notification}
    (hbefore : ∀ u ∈ before, ∀ seen, a.refusal? requester seen u.binding h = none)
    (hfirst : ∀ seen, a.refusal? requester seen t.binding h = some e)
    (hearliest : ∀ g : Hurdle, g.rank < h.rank → ∀ j,
      a.refusalAt? requester ((before ++ t :: after).map Target.binding) g j = none)
    (hends : (Run.all a.policy requester (before ++ t :: after)).Ends targets
      (some (before.length, .refused e)) told)
    (hsame : ∀ u ∈ targets, a.store.object? u.write.oid = some ⟨u.write.oid, u.body⟩) :
    a.RefusedAt requester ((before ++ t :: after).map Target.binding) h before.length e := by
  obtain ⟨hrefused, hlowest⟩ := refusalAt?_of_first hbefore hfirst after
  obtain ⟨hanswer, hagent, -⟩ := set_of_run_unchanged (by simp) hsmall hpaired hends hsame
  rw [answerOf, hends.stop_eq] at hanswer
  exact ⟨⟨hrefused, hlowest, hearliest⟩, hanswer, hagent⟩

/-- A request that is refused at prepare is refused for the first binding that
does not pass it. -/
theorem refusedAt_of_unprepared (hbefore : ∀ u ∈ before, u.Prepares a.policy requester)
    (hrefused : (t.prepareJudgement a.policy requester).verdict = .error (.refused e)) :
    a.RefusedAt requester ((before ++ t :: after).map Target.binding) .prepare before.length e := by
  have haddressed := addressed_of_targetsOf hpaired
  obtain ⟨-, hfresh, -, -⟩ := targetsOf_ok hpaired
  refine refusedAt_of_run hsmall hpaired ?_ ?_ ?_
    (Run.all_ends_of_unprepared (fun u hu => (hfresh u hu).created) hbefore hrefused) ?_
  · intro u hu seen
    rw [refusal?_prepare (hfresh u (by simp [hu]))]
    exact Judgement.refusal?_eq_none.mpr (.inl (hbefore u hu))
  · intro seen
    rw [refusal?_prepare (hfresh t (by simp)), Judgement.refusal?_eq_some]
    exact hrefused
  · intro g hg j
    cases g with
    | address => exact haddressed.refusalAt?_eq_none j
    | prepare | check | commit => simp [Hurdle.rank] at hg
  · exact found_of_unprepared hfresh (.refused e)

/-- A request that is refused at check is refused for the first binding that does
not pass it. -/
theorem refusedAt_of_unchecked
    (hprepares : ∀ u ∈ before ++ t :: after, u.Prepares a.policy requester)
    (hbefore : ∀ u ∈ before, u.Checks)
    (hrefused : (t.body.check t.write.proposed).verdict = .error e) :
    a.RefusedAt requester ((before ++ t :: after).map Target.binding) .check before.length e := by
  have haddressed := addressed_of_targetsOf hpaired
  obtain ⟨-, hfresh, -, -⟩ := targetsOf_ok hpaired
  refine refusedAt_of_run hsmall hpaired ?_ ?_ ?_
    (Run.all_ends_of_unchecked (fun u hu => (hfresh u hu).created) hprepares hbefore hrefused) ?_
  · intro u hu seen
    rw [refusal?_check (hfresh u (by simp [hu])), Judgement.refusal?_ofWrite_eq_none]
    exact hbefore u hu
  · intro seen
    rw [refusal?_check (hfresh t (by simp)), Judgement.refusal?_ofWrite_eq_some]
    exact hrefused
  · intro g hg j
    cases g with
    | address => exact haddressed.refusalAt?_eq_none j
    | prepare => exact refusalAt?_prepare_eq_none hfresh hprepares j
    | check | commit => simp [Hurdle.rank] at hg
  · simp only [List.mem_append, List.mem_cons, List.mem_map]
    rintro _ (⟨u, hu, rfl⟩ | rfl | ⟨u, hu, rfl⟩)
    · exact (hfresh u (by simp [hu])).found
    · exact (hfresh t (by simp)).found
    · exact (hfresh u (by simp [hu])).found

/-- A request that is refused at commit is refused for the first binding that does
not pass it, and the commits before it have been undone. -/
theorem refusedAt_of_uncommitted
    (hprepares : ∀ u ∈ before ++ t :: after, u.Prepares a.policy requester)
    (hchecks : ∀ u ∈ before ++ t :: after, u.Checks) (hbefore : ∀ u ∈ before, u.Commits)
    (hrefused : t.commitResult = .error (.refused e)) :
    a.RefusedAt requester ((before ++ t :: after).map Target.binding) .commit before.length
      (Target.commitRefusal e) := by
  have haddressed := addressed_of_targetsOf hpaired
  obtain ⟨-, hfresh, -, -⟩ := targetsOf_ok hpaired
  refine refusedAt_of_run hsmall hpaired ?_ ?_ ?_
    (Run.all_ends_of_uncommitted (fun u hu => (hfresh u hu).created) hprepares hchecks hbefore
      hrefused) ?_
  · intro u hu seen
    exact refusal?_commit_of_commits (hfresh u (by simp [hu])) seen (hbefore u hu)
  · intro seen
    exact refusal?_commit_of_refused (hfresh t (by simp)) seen hrefused
  · intro g hg j
    cases g with
    | address => exact haddressed.refusalAt?_eq_none j
    | prepare => exact refusalAt?_prepare_eq_none hfresh hprepares j
    | check => exact refusalAt?_check_eq_none hfresh hchecks j
    | commit => simp [Hurdle.rank] at hg
  · simp only [List.mem_append, List.mem_cons, List.mem_map]
    rintro _ (⟨u, hu, rfl⟩ | rfl | ⟨u, hu, rfl⟩)
    · have hu' := hfresh u (by simp [hu])
      rw [Target.body_undone hu'.prior_eq]
      exact hu'.found
    · exact (hfresh t (by simp)).found
    · exact (hfresh u (by simp [hu])).found

end Refused

/-- The agent halts at one of the targets of a request, at prepare, and all is as it was. -/
structure HaltsAt (a : Agent) (requester : Requester) (bindings : List VarBind)
    (before : List Target) (t : Target) (after : List Target) : Prop where
  paired : targetsOf a.store [] bindings = .ok (before ++ t :: after)
  prepares : ∀ u ∈ before, u.Prepares a.policy requester
  halted : (t.prepareJudgement a.policy requester).verdict = .error .halted
  answer_eq : (a.set requester bindings).answer = .halted
  agent_eq : (a.set requester bindings).agent = a
  notified_eq : (a.set requester bindings).notified = []

/-- A request that is not too big is refused for a binding, halts the agent, or is accepted. -/
theorem refused_halts_or_accepts (requester : Requester)
    (hsmall : bindings.length ≤ a.maxBindings) :
    (∃ h position e, a.RefusedAt requester bindings h position e) ∨
      (∃ before t after, a.HaltsAt requester bindings before t after) ∨
      ∃ ts, a.Accepts requester bindings ts := by
  by_cases hempty : bindings = []
  · subst hempty
    have haccepts : a.Accepts requester [] [] := ⟨hsmall, rfl, by simp, by simp, by simp⟩
    exact .inr (.inr ⟨[], haccepts⟩)
  cases hpaired : targetsOf a.store [] bindings with
  | error failure => exact .inl ⟨_, _, _, refusedAt_of_unpaired hempty hsmall hpaired⟩
  | ok ts =>
    obtain ⟨rfl, hfresh, -, -⟩ := targetsOf_ok hpaired
    cases Course.exists a.policy requester ts with
    | @unprepared before after t failure hsplit hbefore hfails =>
      subst hsplit
      cases failure with
      | refused e => exact .inl ⟨_, _, _, refusedAt_of_unprepared hsmall hpaired hbefore hfails⟩
      | halted =>
        have hends := Run.all_ends_of_unprepared (fun u hu => (hfresh u hu).created) hbefore hfails
        obtain ⟨hanswer, hagent, hnotified⟩ := set_of_run_unchanged hempty hsmall hpaired hends
          (found_of_unprepared hfresh .halted)
        rw [answerOf, hends.stop_eq] at hanswer
        exact .inr (.inl ⟨before, t, after, hpaired, hbefore, hfails, hanswer, hagent, hnotified⟩)
    | unchecked hsplit hprepares hbefore hrefused =>
      subst hsplit
      exact .inl ⟨_, _, _, refusedAt_of_unchecked hsmall hpaired hprepares hbefore hrefused⟩
    | uncommitted hsplit hprepares hchecks hbefore hrefused =>
      subst hsplit
      exact .inl ⟨_, _, _,
        refusedAt_of_uncommitted hsmall hpaired hprepares hchecks hbefore hrefused⟩
    | completing hprepares hchecks hcommits =>
      exact .inr (.inr ⟨ts, hsmall, hpaired, hprepares, hchecks, hcommits⟩)

/-- What can come of a request. -/
inductive Settled (a : Agent) (requester : Requester) (bindings : List VarBind) : Prop where
  /-- It is accepted. -/
  | accepted {ts : List Target} (haccepts : a.Accepts requester bindings ts)
  /-- It carries too many bindings. -/
  | tooBig (hbig : a.maxBindings < bindings.length)
  /-- A binding is to blame. -/
  | refused {h : Hurdle} {position : Nat} {e : Refusal}
      (hsmall : bindings.length ≤ a.maxBindings)
      (hrefused : a.RefusedAt requester bindings h position e)
  /-- An object halts the agent at prepare, and all is as it was. -/
  | halted {o : ManagedObject} {v : Value} (hobject : o ∈ a.store.objects)
      (hhalted : (o.body.prepare v requester).verdict = .error .halted)
      (hanswer : (a.set requester bindings).answer = .halted)
      (hagent : (a.set requester bindings).agent = a)
      (hnotified : (a.set requester bindings).notified = [])

/-- Every request is settled in one of these ways. -/
theorem Settled.of_set (a : Agent) (requester : Requester) (bindings : List VarBind) :
    a.Settled requester bindings := by
  by_cases hbig : a.maxBindings < bindings.length
  · exact .tooBig hbig
  have hsmall : bindings.length ≤ a.maxBindings := Nat.not_lt.mp hbig
  rcases refused_halts_or_accepts requester hsmall with
    ⟨h, position, e, hrefused⟩ | ⟨before, t, after, hhalts⟩ | ⟨ts, haccepts⟩
  · exact .refused hsmall hrefused
  · obtain ⟨-, hfresh, -, -⟩ := targetsOf_ok hhalts.paired
    have hfound := (hfresh t (by simp)).found
    exact .halted (Store.mem_objects_of_object? hfound)
      (Target.verdict_prepare_of_halted hhalts.halted) hhalts.answer_eq hhalts.agent_eq
      hhalts.notified_eq
  · exact .accepted haccepts

/-- With bounded keys a request is accepted, is too big, or a binding is to blame. -/
theorem settled_of_keysBounded (hbounded : a.store.KeysBounded) (requester : Requester)
    (bindings : List VarBind) :
    (∃ ts, a.Accepts requester bindings ts) ∨ a.maxBindings < bindings.length ∨
      bindings.length ≤ a.maxBindings ∧
        ∃ h position e, a.RefusedAt requester bindings h position e := by
  cases Settled.of_set a requester bindings with
  | accepted haccepts => exact .inl ⟨_, haccepts⟩
  | tooBig hbig => exact .inr (.inl hbig)
  | refused hsmall hrefused => exact .inr (.inr ⟨hsmall, _, _, _, hrefused⟩)
  | halted hobject hhalted _ _ _ =>
    exact absurd hhalted (ObjectBody.verdict_prepare_ne_halted (hbounded _ hobject) _ _)

/-- Where a request halts the agent, some key is not bounded. The agent is as it was, and
nobody is told anything. -/
theorem set_of_halted (hhalted : (a.set requester bindings).answer = .halted) :
    ¬a.store.KeysBounded ∧ (a.set requester bindings).agent = a ∧
      (a.set requester bindings).notified = [] := by
  cases Settled.of_set a requester bindings with
  | accepted haccepts => cases hhalted.symm.trans (set_of_accepts haccepts).1
  | tooBig hbig =>
    rw [set_of_tooBig hbig] at hhalted
    cases hhalted
  | refused _ hrefused => cases hhalted.symm.trans hrefused.answer_eq
  | halted hobject hprepare _ hagent hnotified =>
    refine ⟨fun hbounded => ?_, hagent, hnotified⟩
    exact absurd hprepare (ObjectBody.verdict_prepare_ne_halted (hbounded _ hobject) _ _)

end Agent

end SnmpSet
