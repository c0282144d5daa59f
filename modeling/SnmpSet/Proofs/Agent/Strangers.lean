import SnmpSet.Proofs.Agent.DigestKeys

/-!
# Requesters who do not own a key

A user's own key is closed to everybody else. The requester is looked at before the
proposal, the rules and the stored key, so a stranger is refused for a reason that tells
nothing of any of them. A batch that gets as far as the key is refused for it.
-/

namespace SnmpSet

namespace KeyChangeColumn

variable {column : KeyChangeColumn} {requester : Requester}

/-- A requester is not the user under USM that the row of a column belongs to. -/
inductive Stranger (column : KeyChangeColumn) : Requester → Prop
  /-- Nobody in particular. -/
  | anonymous : Stranger column none
  /-- A principal under another security model. -/
  | otherModel {principal : Principal} (hmodel : principal.model ≠ .usm) :
      Stranger column (some principal)
  /-- Anybody at all, if the row belongs to no user. -/
  | ownerless {principal : Principal} {defect : OidDefect} (howner : column.owner = .error defect) :
      Stranger column (some principal)
  /-- Another user. -/
  | otherUser {principal : Principal} {owner : List UInt8} (howner : column.owner = .ok owner)
      (hidentity : principal.identity ≠ owner) : Stranger column (some principal)

/-- Strangers are refused access to a column, and nobody else is. -/
theorem stranger_iff :
    column.Stranger requester ↔ ∃ reason, column.vet requester = .error (.noAccess reason) := by
  constructor
  · intro hstranger
    cases hstranger with
    | anonymous => exact ⟨_, rfl⟩
    | otherModel hmodel => simp [vet, hmodel]
    | @ownerless principal defect howner =>
      by_cases hmodel : principal.model = .usm
      · simp [vet, hmodel, howner]
      · simp [vet, hmodel]
    | @otherUser principal owner howner hidentity =>
      by_cases hmodel : principal.model = .usm
      · simp [vet, hmodel, howner, hidentity]
      · simp [vet, hmodel]
  · rintro ⟨reason, hvet⟩
    unfold vet at hvet
    split at hvet
    · exact .anonymous
    · next principal =>
      split at hvet
      · split at hvet
        · next defect howner => exact .ownerless howner
        · next owner howner =>
          split at hvet
          · simp at hvet
          · next hidentity => exact .otherUser howner hidentity
      · next hmodel => exact .otherModel hmodel

end KeyChangeColumn

/-- A user's own key judges nothing but the requester where it refuses the requester. -/
theorem ObjectBody.prepare_of_vet {b : ObjectBody} {column : KeyChangeColumn}
    {requester : Requester} {e : Refusal} (hkind : b.kind = .ownKeyChange column)
    (hvet : column.vet requester = .error e) (proposed : Value) :
    b.prepare proposed requester = .direct (.error (.refused e)) := by
  have hscreen : b.screen proposed requester = .direct (.error e) := by
    simp [screen, hkind, Kind.writable, Kind.vet, hvet, Judgement.direct, Judgement.andThen]
  rw [prepare, hscreen]
  rfl

namespace Agent

variable {a : Agent} {requester : Requester} {before after : List VarBind} {b : VarBind}

/-- The judgement on a binding at prepare, from the policy and the object that it addresses. -/
def prepareJudgement (a : Agent) (requester : Requester) (b : VarBind) :
    Judgement WriteFailure :=
  match a.store.object? b.oid with
  | some o => (Target.ofBinding b o.body).prepareJudgement a.policy requester
  | none => .direct (.error (.refused .noCreation))

/-- The judgement on a binding is that on its target. -/
theorem prepareJudgement_binding {t : Target} (hfresh : t.Fresh a.store) :
    a.prepareJudgement requester t.binding = t.prepareJudgement a.policy requester := by
  have hfound : a.store.object? t.binding.oid = some ⟨t.write.oid, t.body⟩ := hfresh.found
  rw [prepareJudgement, hfound]
  rfl

/-- A binding that is refused at prepare, after others that pass it, ends the batch: the
agent is as it was, nobody is told anything, and no rule is asked but those that judge
the bindings so far at prepare. -/
theorem set_of_unprepared {e : Refusal}
    (haddressed : Addressed a.store (before ++ b :: after))
    (hsmall : (before ++ b :: after).length ≤ a.maxBindings)
    (hbefore : ∀ u ∈ before, (a.prepareJudgement requester u).verdict = .ok ())
    (hrefused : (a.prepareJudgement requester b).verdict = .error (.refused e)) :
    a.set requester (before ++ b :: after) =
      { answer := .response (.refused e (before.length + 1) (before ++ b :: after))
        agent := a
        asked := (before.flatMap fun u => (a.prepareJudgement requester u).asked) ++
          (a.prepareJudgement requester b).asked
        notified := [] } := by
  obtain ⟨ts, hpaired⟩ := exists_targetsOf haddressed
  obtain ⟨hbindings, hfresh, -, -⟩ := targetsOf_ok hpaired
  obtain ⟨us, rest, rfl, rfl, hrest⟩ := List.map_eq_append_iff.mp hbindings
  obtain ⟨t, vs, rfl, rfl, rfl⟩ := List.map_eq_cons_iff.mp hrest
  have hcreated : ∀ u ∈ us ++ t :: vs, u.write.phase = .created := fun u hu =>
    (hfresh u hu).created
  have hjudged : ∀ u ∈ us ++ t :: vs,
      a.prepareJudgement requester u.binding = u.prepareJudgement a.policy requester :=
    fun u hu => prepareJudgement_binding (hfresh u hu)
  have hprepares : ∀ u ∈ us, u.Prepares a.policy requester := by
    intro u hu
    have hverdict := hbefore u.binding (List.mem_map_of_mem hu)
    rwa [hjudged u (by simp [hu])] at hverdict
  have ht := hjudged t (by simp)
  have hus : (us.map Target.binding).flatMap (fun b => (a.prepareJudgement requester b).asked) =
      us.flatMap fun u => (u.prepareJudgement a.policy requester).asked := by
    rw [List.flatMap_map]
    exact congrArg List.flatten (List.map_congr_left fun u hu =>
      congrArg Judgement.asked (hjudged u (by simp [hu])))
  rw [ht] at hrefused
  have hends := Run.all_ends_of_unprepared hcreated hprepares hrefused
  have hasked := Run.asked_all_of_unprepared hcreated hprepares hrefused
  rw [← List.map_cons, ← List.map_append] at hsmall hpaired ⊢
  obtain ⟨-, hanswer, hagent⟩ := refusedAt_of_unprepared hsmall hpaired hprepares hrefused
  have hne : (us ++ t :: vs).map Target.binding ≠ [] := by simp
  have hrun : a.set requester _ = _ := set_of_paired hne hsmall hpaired
  rw [hrun] at hanswer hagent
  dsimp only at hanswer hagent
  rw [hrun, hanswer, hagent, hasked, hends.notified_eq, hus, ht, List.length_map]

/-- Requesters who do not own a key learn nothing of it. Prepare refuses them access for one
and the same reason, whatever is proposed, stored and ruled, and asks no rule. A batch that
passes prepare up to the key is refused there for want of access: nobody is told anything,
the agent is as it was, and no rules are asked but those of the objects before. -/
theorem stranger_learns_nothing {column : KeyChangeColumn} {requester : Requester}
    (hstranger : column.Stranger requester) :
    (∃ reason, ∀ (b : ObjectBody) (proposed : Value), b.kind = .ownKeyChange column →
      b.prepare proposed requester = .direct (.error (.refused (.noAccess reason)))) ∧
    ∀ (a : Agent) (before after : List VarBind) (oid : Oid) (b : ObjectBody) (proposed : Value),
      a.store.object? oid = some ⟨oid, b⟩ → b.kind = .ownKeyChange column →
      Addressed a.store (before ++ ⟨oid, proposed⟩ :: after) →
      (before ++ ⟨oid, proposed⟩ :: after).length ≤ a.maxBindings →
      (∀ u ∈ before, (a.prepareJudgement requester u).verdict = .ok ()) →
      a.set requester (before ++ ⟨oid, proposed⟩ :: after) =
        { answer := .response
            ⟨.noAccess, before.length + 1, before ++ ⟨oid, proposed⟩ :: after⟩
          agent := a
          asked := before.flatMap fun u => (a.prepareJudgement requester u).asked
          notified := [] } := by
  obtain ⟨reason, hvet⟩ := KeyChangeColumn.stranger_iff.mp hstranger
  constructor
  · exact ⟨reason, fun b proposed hkind => ObjectBody.prepare_of_vet hkind hvet proposed⟩
  · intro a before after oid b proposed hfound hkind haddressed hsmall hbefore
    obtain ⟨reason', hjudged⟩ : ∃ reason',
        a.prepareJudgement requester ⟨oid, proposed⟩ =
          .direct (.error (.refused (.noAccess reason'))) := by
      rw [prepareJudgement, hfound]
      change ∃ reason', (if a.policy.allows requester oid then b.prepare proposed requester
        else .direct (.error (.refused (.noAccess s!"write to {oid} denied")))) = _
      split
      · exact ⟨reason, ObjectBody.prepare_of_vet hkind hvet proposed⟩
      · exact ⟨_, rfl⟩
    have hset := set_of_unprepared haddressed hsmall hbefore (by rw [hjudged]; rfl)
    rw [hset, hjudged]
    simp [Judgement.direct, Response.refused, Refusal.status]

/-- An agent with a short octet string and a key of the user with the name `a`. The key has
a rule of its own. -/
def withRuledKey : Agent :=
  .ofStore <| Store.empty
    |>.put ((ManagedObject.plain ⟨[1, 1]⟩ (.octets [])).withRule (.length ⟨0, 2⟩))
    |>.put ((ManagedObject.ownKeyChange ⟨[1, 3]⟩ (.ofDigest ⟨[1]⟩ octetSum) ⟨[1, 128, 1, 97]⟩
      [9]).withRule (.length ⟨2, 2⟩))

/-- A proposal for each of the two. That for the key does not even have the right type. -/
def proposals : List VarBind := [⟨⟨[1, 1]⟩, .octets [7]⟩, ⟨⟨[1, 3]⟩, .integer 5⟩]

/-- The user with the name `b` is refused the key after the rule of the octet string has been
asked, and is not told of the type. -/
theorem withRuledKey_keeps_secret :
    (KeyChangeColumn.create (.ofDigest ⟨[1]⟩ octetSum) ⟨[1, 128, 1, 97]⟩).Stranger
      (some ⟨[98], .usm⟩) ∧
    (withRuledKey.set (some ⟨[98], .usm⟩) proposals).answer =
      .response ⟨.noAccess, 2, proposals⟩ ∧
    (withRuledKey.set (some ⟨[98], .usm⟩) proposals).asked = [.length ⟨0, 2⟩] := by
  have howner : (KeyChangeColumn.create (.ofDigest ⟨[1]⟩ octetSum) ⟨[1, 128, 1, 97]⟩).owner =
      .ok [97] := rfl
  have hstranger : (KeyChangeColumn.create (.ofDigest ⟨[1]⟩ octetSum) ⟨[1, 128, 1, 97]⟩).Stranger
      (some ⟨[98], .usm⟩) := .otherUser howner (by decide)
  have haddressed : Addressed withRuledKey.store proposals := ⟨by decide, by decide⟩
  have hbefore : ∀ u ∈ [(⟨⟨[1, 1]⟩, .octets [7]⟩ : VarBind)],
      (withRuledKey.prepareJudgement (some ⟨[98], .usm⟩) u).verdict = .ok () := by
    rw [List.forall_mem_singleton]
    rfl
  obtain ⟨-, hbatch⟩ := stranger_learns_nothing hstranger
  have hset : withRuledKey.set (some ⟨[98], .usm⟩) proposals =
      { answer := .response ⟨.noAccess, 2, proposals⟩
        agent := withRuledKey
        asked := [.length ⟨0, 2⟩]
        notified := [] } :=
    hbatch withRuledKey [⟨⟨[1, 1]⟩, .octets [7]⟩] [] ⟨[1, 3]⟩ _ (.integer 5) rfl rfl haddressed
      (by decide) hbefore
  rw [hset]
  exact ⟨hstranger, rfl, rfl⟩

end Agent

end SnmpSet
