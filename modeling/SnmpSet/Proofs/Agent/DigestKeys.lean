import SnmpSet.Proofs.Agent.Outcomes
import SnmpSet.Proofs.Completeness

/-!
# Agents whose keys are masked with digests

A digest always derives a key of the right length, so an agent whose keys are all
masked with digests commits whatever it has prepared and checked. It never rolls
back, and it reports a failure at commit only where a rule of the application's
own has given this very reason at prepare or check.
-/

namespace SnmpSet

/-- Every key of the store is masked with a digest. -/
def Store.KeysUseDigests (s : Store) : Prop :=
  ∀ o ∈ s.objects, ∀ column ∈ o.body.kind.column?, column.protocol.UsesDigest

/-- Keys that are masked with digests are bounded. -/
theorem Store.KeysUseDigests.keysBounded {s : Store} (hdigests : s.KeysUseDigests) :
    s.KeysBounded :=
  fun o ho column hcolumn => (hdigests o ho column hcolumn).keyBounded

/-- A key that is masked with a digest never misderives. -/
theorem ObjectBody.not_misderives_of_usesDigest {b : ObjectBody}
    (hdigest : ∀ column ∈ b.kind.column?, column.protocol.UsesDigest) (proposed : Value) :
    ¬b.Misderives proposed := by
  rintro ⟨column, hcolumn, oldKey, keyChange, -, -, hmisderives⟩
  exact KeyChangeColumn.not_misderives (hdigest column hcolumn) hmisderives

/-- An object that prepares and checks a proposal does not refuse to commit it, if
its key is masked with a digest. -/
theorem ObjectBody.commit_ne_refused_of_usesDigest {b : ObjectBody} {proposed : Value}
    {requester : Requester} (hdigest : ∀ column ∈ b.kind.column?, column.protocol.UsesDigest)
    (hprepare : (b.prepare proposed requester).verdict = .ok ())
    (hcheck : (b.check proposed).verdict = .ok ()) (e : Refusal) :
    b.kind.commit b.value proposed ≠ .error (.refused e) := by
  have hderives := not_misderives_of_usesDigest hdigest proposed
  obtain ⟨c, hcommit⟩ := (fits_of_prepare_check hprepare hcheck).exists_commit hderives
  simp [hcommit]

namespace Agent

variable {a : Agent} {requester : Requester} {bindings : List VarBind}

/-- With keys masked with digests no prepared and checked target is refused at commit. -/
theorem commitResult_ne_refused (hdigests : a.store.KeysUseDigests) {t : Target}
    (hfresh : t.Fresh a.store) (hprepares : t.Prepares a.policy requester) (hchecks : t.Checks)
    (e : Refusal) : t.commitResult ≠ .error (.refused e) :=
  ObjectBody.commit_ne_refused_of_usesDigest
    (hdigests _ (Store.mem_objects_of_object? hfresh.found)) (Target.prepares_iff.mp hprepares).2
    hchecks e

/-- With keys masked with digests no batch rolls back, and none leaves a target undone. -/
theorem not_rollsBack (hdigests : a.store.KeysUseDigests) {ts : List Target}
    (hpaired : targetsOf a.store [] bindings = .ok ts) :
    ¬Run.RollsBack a.policy requester ts ∧
      ∀ t ∈ (Run.all a.policy requester ts).targets, t.write.phase ≠ .undoApplied := by
  obtain ⟨-, hfresh, -, -⟩ := targetsOf_ok hpaired
  have hcreated : ∀ t ∈ ts, t.write.phase = .created := fun t ht => (hfresh t ht).created
  constructor
  · intro hrollsBack
    obtain ⟨t, ht, hprepares, hchecks, e, hrefused⟩ :=
      Run.exists_refused_of_rollsBack hcreated hrollsBack
    exact commitResult_ne_refused hdigests (hfresh t ht) hprepares hchecks e hrefused
  · intro u hu hundone
    obtain ⟨t, ht, hprepares, hchecks, e, hrefused⟩ :=
      Run.exists_refused_of_undone hcreated hu hundone
    exact commitResult_ne_refused hdigests (hfresh t ht) hprepares hchecks e hrefused

section Hurdles

variable {before : List VarBind} {b : VarBind} {o : ManagedObject} {e : Refusal}

/-- A binding that passes the hurdle of prepare is prepared by its object, if its key is
bounded. -/
theorem prepare_of_refusal?_eq_none (hfound : a.store.object? b.oid = some o)
    (hbounded : o.body.kind.KeyBounded)
    (hpass : a.refusal? requester before b .prepare = none) :
    (o.body.prepare b.value requester).verdict = .ok () := by
  simp only [refusal?, hfound, Option.bind_some] at hpass
  split at hpass
  · rcases Judgement.refusal?_eq_none.mp hpass with haccepts | hhalted
    · exact haccepts
    · exact absurd hhalted (ObjectBody.verdict_prepare_ne_halted hbounded _ _)
  · simp at hpass

/-- A binding that passes the hurdle of check is checked by its object. -/
theorem check_of_refusal?_eq_none (hfound : a.store.object? b.oid = some o)
    (hpass : a.refusal? requester before b .check = none) :
    (o.body.check b.value).verdict = .ok () := by
  simp only [refusal?, hfound, Option.bind_some] at hpass
  exact Judgement.refusal?_ofWrite_eq_none.mp hpass

/-- A binding that fails at prepare as failed at commit does so for a rule of the
application's own. -/
theorem exists_rule_of_refusal?_prepare
    (hrefused : a.refusal? requester before b .prepare = some e)
    (hstatus : e.status = .commitFailed) :
    ∃ o, a.store.object? b.oid = some o ∧
      ∃ rule ∈ o.body.rules.rules, rule.isCustom ∧ rule.refusal? b.value o.body.value = some e := by
  obtain ⟨o, hfound, ho⟩ := Option.bind_eq_some_iff.mp hrefused
  split at ho
  · exact ⟨o, hfound, ObjectBody.exists_rule_of_prepare (Judgement.refusal?_eq_some.mp ho) hstatus⟩
  · obtain rfl := Option.some.inj ho
    simp [Refusal.status] at hstatus

/-- A binding that fails at check as failed at commit does so for a rule of the
application's own. -/
theorem exists_rule_of_refusal?_check
    (hrefused : a.refusal? requester before b .check = some e)
    (hstatus : e.status = .commitFailed) :
    ∃ o, a.store.object? b.oid = some o ∧
      ∃ rule ∈ o.body.rules.rules, rule.isCustom ∧ rule.refusal? b.value o.body.value = some e := by
  obtain ⟨o, hfound, ho⟩ := Option.bind_eq_some_iff.mp hrefused
  exact ⟨o, hfound, ObjectBody.exists_rule_of_check (Judgement.refusal?_ofWrite_eq_some.mp ho)
    hstatus⟩

/-- With keys masked with digests a binding that passes prepare and check passes commit. -/
theorem refusal?_commit_eq_none (hdigests : a.store.KeysUseDigests)
    (hprepare : a.refusal? requester before b .prepare = none)
    (hcheck : a.refusal? requester before b .check = none) :
    a.refusal? requester before b .commit = none := by
  cases hrefusal : a.refusal? requester before b .commit with
  | none => rfl
  | some e =>
    obtain ⟨o, hfound, ho⟩ := Option.bind_eq_some_iff.mp hrefusal
    split at ho
    · next e' hrefused =>
      have ho := Store.mem_objects_of_object? hfound
      have hprepared := prepare_of_refusal?_eq_none hfound (hdigests.keysBounded o ho) hprepare
      exact absurd hrefused (ObjectBody.commit_ne_refused_of_usesDigest (hdigests o ho) hprepared
        (check_of_refusal?_eq_none hfound hcheck) e')
    · simp at ho

end Hurdles

/-- With keys masked with digests a binding is to blame as failed at commit only
for a rule of the application's own. -/
theorem Blames.exists_rule {h : Hurdle} {position : Nat} {e : Refusal}
    (hdigests : a.store.KeysUseDigests) (hblames : a.Blames requester bindings h position e)
    (hstatus : e.status = .commitFailed) :
    ∃ b, bindings[position]? = some b ∧ ∃ o, a.store.object? b.oid = some o ∧
      ∃ rule ∈ o.body.rules.rules, rule.isCustom ∧ rule.refusal? b.value o.body.value = some e := by
  obtain ⟨b, hb, hrefused⟩ := Option.bind_eq_some_iff.mp hblames.refused
  have hpass {g : Hurdle} (hg : g.rank < h.rank) :
      a.refusal? requester (bindings.take position) b g = none := by
    have hnone := hblames.earliest g hg position
    rwa [refusalAt?, hb, Option.bind_some] at hnone
  refine ⟨b, hb, ?_⟩
  cases h with
  | address =>
    rw [status_of_addressRefusal? hrefused] at hstatus
    split at hstatus <;> cases hstatus
  | prepare => exact exists_rule_of_refusal?_prepare hrefused hstatus
  | check => exact exists_rule_of_refusal?_check hrefused hstatus
  | commit =>
    have hnone := refusal?_commit_eq_none hdigests (hpass (g := .prepare) (by decide))
      (hpass (g := .check) (by decide))
    simp [hnone] at hrefused

/-- With keys masked with digests a request is answered as failed at commit only
for a rule of the application's own. -/
theorem exists_rule_of_commitFailed (hdigests : a.store.KeysUseDigests) {r : Response}
    (hanswer : (a.set requester bindings).answer = .response r)
    (hstatus : r.status = .commitFailed) :
    ∃ b, bindings[r.errorIndex - 1]? = some b ∧ ∃ o, a.store.object? b.oid = some o ∧
      ∃ rule ∈ o.body.rules.rules, rule.isCustom ∧
        ∃ reason, rule.refusal? b.value o.body.value = some (.commitFailed reason) := by
  cases Settled.of_set a requester bindings with
  | accepted haccepts =>
    obtain rfl := Answer.response.inj ((set_of_accepts haccepts).1.symm.trans hanswer)
    cases hstatus
  | tooBig hbig =>
    rw [set_of_tooBig hbig] at hanswer
    obtain rfl := Answer.response.inj hanswer
    cases hstatus
  | refused _ hrefused =>
    obtain rfl := Answer.response.inj (hrefused.answer_eq.symm.trans hanswer)
    obtain ⟨b, hb, o, ho, rule, hrule, hcustom, hrefusal⟩ :=
      hrefused.blames.exists_rule hdigests hstatus
    obtain ⟨reason, rfl⟩ := Refusal.exists_of_status_commitFailed hstatus
    exact ⟨b, hb, o, ho, rule, hrule, hcustom, reason, hrefusal⟩
  | halted _ _ hhalted _ _ =>
    rw [hhalted] at hanswer
    cases hanswer

/-- Prepare and check are complete: with bounded keys an object commits what it
has prepared and checked, unless its protocol derives a key of the wrong length.
So where all keys are masked with digests no batch rolls back, and a request is
answered as failed at commit only if a rule of the application's own has refused
the value for that very reason. -/
theorem prepare_check_complete :
    (∀ (b : ObjectBody) (oid : Oid) (proposed : Value) (requester : Requester),
      b.kind.KeyBounded → (b.prepare proposed requester).verdict = .ok () →
      (b.check proposed).verdict = .ok () →
      ((∃ result, b.commit oid proposed = .ok result) ↔ ¬b.Misderives proposed)) ∧
    ∀ (a : Agent) (requester : Requester) (bindings : List VarBind), a.store.KeysUseDigests →
      (∀ ts, targetsOf a.store [] bindings = .ok ts → ¬Run.RollsBack a.policy requester ts ∧
        ∀ t ∈ (Run.all a.policy requester ts).targets, t.write.phase ≠ .undoApplied) ∧
      ∀ r, (a.set requester bindings).answer = .response r → r.status = .commitFailed →
        ∃ b, bindings[r.errorIndex - 1]? = some b ∧ ∃ o, a.store.object? b.oid = some o ∧
          ∃ rule ∈ o.body.rules.rules, rule.isCustom ∧
            ∃ reason, rule.refusal? b.value o.body.value = some (.commitFailed reason) := by
  constructor
  · intro b oid proposed requester _ hprepare hcheck
    have hfits := ObjectBody.fits_of_prepare_check hprepare hcheck
    rw [ObjectBody.exists_commit_iff]
    constructor
    · rintro ⟨c, hcommit⟩ hmisderives
      obtain ⟨reason, hrefused⟩ := hfits.commit_of_misderives hmisderives
      simp [hrefused] at hcommit
    · exact hfits.exists_commit
  · intro a requester bindings hdigests
    constructor
    · intro ts hpaired
      exact not_rollsBack hdigests hpaired
    · intro r hanswer hstatus
      exact exists_rule_of_commitFailed hdigests hanswer hstatus

/-- A digest of one octet, the sum of all. -/
def octetSum : Digest where
  outputSize := 1
  hash message := [message.foldl (· + ·) 0]
  outputSize_pos := by decide
  outputSize_lt := by decide
  length_hash _ := rfl

/-- A key that is masked with the sum of octets. -/
def sumKey : ManagedObject := .keyChange ⟨[1, 3]⟩ (.ofDigest ⟨[1]⟩ octetSum) .empty [9]

/-- A rule that refuses every value at check as failed at commit. -/
def feignedFailure : Rule := .custom .check fun _ _ => some (.commitFailed "refused by rule")

/-- An agent with a key that is masked with a digest and an integer with this rule. -/
def withFeignedFailure : Agent :=
  .ofStore <| Store.empty
    |>.put ((ManagedObject.plain ⟨[1, 1]⟩ (.integer 0)).withRule feignedFailure)
    |>.put sumKey

/-- The objects of this agent. -/
theorem withFeignedFailure_objects : withFeignedFailure.store.objects =
    [(ManagedObject.plain ⟨[1, 1]⟩ (.integer 0)).withRule feignedFailure, sumKey] := rfl

/-- The one key of this agent is masked with a digest. -/
theorem withFeignedFailure_keysUseDigests : withFeignedFailure.store.KeysUseDigests := by
  intro o ho column hcolumn
  rw [withFeignedFailure_objects, List.mem_cons, List.mem_singleton] at ho
  rcases ho with rfl | rfl
  · cases hcolumn
  · obtain rfl := Option.some.inj hcolumn
    exact ⟨⟨[1]⟩, octetSum, rfl⟩

/-- Keys that are masked with digests do not keep a rule of the application's own
from refusing a value as failed at commit. -/
theorem not_forall_status_ne_commitFailed :
    ¬∀ (a : Agent) (requester : Requester) (bindings : List VarBind) (r : Response),
      a.store.KeysUseDigests → a.store.KeysBounded →
      (a.set requester bindings).answer = .response r → r.status ≠ .commitFailed := by
  intro hnever
  have hanswer : (withFeignedFailure.set none [⟨⟨[1, 1]⟩, .integer 5⟩]).answer =
      .response ⟨.commitFailed, 1, [⟨⟨[1, 1]⟩, .integer 5⟩]⟩ := by rfl
  exact hnever withFeignedFailure none _ _ withFeignedFailure_keysUseDigests (by decide) hanswer rfl

/-- The key commits what it has prepared and checked, no batch on the agent rolls
back, and a request that fails at commit does so for the rule. -/
theorem withFeignedFailure_complete :
    (sumKey.body.kind.KeyBounded ∧
      (sumKey.body.prepare (.octets [3, 4]) none).verdict = .ok () ∧
      (sumKey.body.check (.octets [3, 4])).verdict = .ok () ∧
      ∃ result, sumKey.body.commit sumKey.oid (.octets [3, 4]) = .ok result) ∧
    withFeignedFailure.store.KeysUseDigests ∧
    (∃ ts, targetsOf withFeignedFailure.store [] [⟨⟨[1, 1]⟩, .integer 5⟩] = .ok ts ∧
      ¬Run.RollsBack withFeignedFailure.policy none ts) ∧
    ∃ o, withFeignedFailure.store.object? ⟨[1, 1]⟩ = some o ∧
      ∃ rule ∈ o.body.rules.rules, rule.isCustom ∧
        ∃ reason, rule.refusal? (.integer 5) o.body.value = some (.commitFailed reason) := by
  have hbounded : sumKey.body.kind.KeyBounded := by decide
  have hprepare : (sumKey.body.prepare (.octets [3, 4]) none).verdict = .ok () := by rfl
  have hcheck : (sumKey.body.check (.octets [3, 4])).verdict = .ok () := by rfl
  have hanswer : (withFeignedFailure.set none [⟨⟨[1, 1]⟩, .integer 5⟩]).answer =
      .response ⟨.commitFailed, 1, [⟨⟨[1, 1]⟩, .integer 5⟩]⟩ := by rfl
  have hdigests := withFeignedFailure_keysUseDigests
  have hmem : sumKey ∈ withFeignedFailure.store.objects := by simp [withFeignedFailure_objects]
  have hderives : ¬sumKey.body.Misderives (.octets [3, 4]) :=
    ObjectBody.not_misderives_of_usesDigest (hdigests sumKey hmem) _
  obtain ⟨hcomplete, hdigest⟩ := prepare_check_complete
  obtain ⟨hbatch, hrule⟩ := hdigest withFeignedFailure none [⟨⟨[1, 1]⟩, .integer 5⟩] hdigests
  have hcommit := (hcomplete _ sumKey.oid _ none hbounded hprepare hcheck).mpr hderives
  refine ⟨⟨hbounded, hprepare, hcheck, hcommit⟩, hdigests, ⟨_, rfl, (hbatch _ rfl).1⟩, ?_⟩
  obtain ⟨b, hb, hblamed⟩ := hrule _ hanswer rfl
  obtain rfl := Option.some.inj hb
  exact hblamed

end Agent

end SnmpSet
