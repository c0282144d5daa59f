import SnmpSet.Proofs.Batch.Course
import SnmpSet.Proofs.KeyChange.Secrecy

/-!
# What a batch gives away of keys

Two batches whose targets are alike take the same course and stop at the same
place for the same reason, and their targets end alike. A commit that is undone
puts back what was there, so it leaves no trace of a key either.
-/

namespace SnmpSet

namespace Target

/-- Two targets have the same binding and report the same, and their objects are alike. -/
structure Alike (t t' : Target) : Prop where
  oid_eq : t'.write.oid = t.write.oid
  proposed_eq : t'.write.proposed = t.write.proposed
  reported_eq : t'.write.reported = t.write.reported
  body : t.body.Alike t'.body

/-- Nothing has happened to the write of a target. -/
structure Starts (t : Target) : Prop where
  created : t.write.phase = .created
  prior_eq : t.write.prior = t.body.value

variable {policy : WritePolicy} {requester : Requester} {t t' : Target}

/-- Alike targets stay alike in any phase. -/
theorem Alike.inPhase (halike : t.Alike t') (phase : Phase) :
    (t.inPhase phase).Alike (t'.inPhase phase) :=
  ⟨halike.oid_eq, halike.proposed_eq, halike.reported_eq, halike.body⟩

/-- Alike targets stay alike when they fail. -/
theorem Alike.failed (halike : t.Alike t') (e : Refusal) : (t.failed e).Alike (t'.failed e) :=
  ⟨halike.oid_eq, halike.proposed_eq, halike.reported_eq, halike.body⟩

/-- Alike targets stay alike when they fail, or halt the agent. -/
theorem Alike.failedBy (halike : t.Alike t') (failure : WriteFailure) :
    (t.failedBy failure).Alike (t'.failedBy failure) := by
  cases failure with
  | refused e => exact halike.failed e
  | halted => exact halike

/-- Alike targets are judged alike at prepare. -/
theorem Alike.prepareJudgement_eq (halike : t.Alike t') :
    t'.prepareJudgement policy requester = t.prepareJudgement policy requester := by
  rw [prepareJudgement, prepareJudgement, halike.oid_eq, halike.proposed_eq,
    halike.body.prepare_eq]

/-- Alike targets are judged alike at check. -/
theorem Alike.check_eq (halike : t.Alike t') :
    t'.body.check t'.write.proposed = t.body.check t.write.proposed := by
  rw [halike.proposed_eq, halike.body.check_eq]

/-- Alike targets with a short proposal fail alike at commit, or report alike and
stay alike. -/
theorem Alike.commitResult (halike : t.Alike t')
    (hshort : ∀ column ∈ t.body.kind.column?, column.IsShort t.write.proposed) :
    (∃ failure, t.commitResult = .error failure ∧ t'.commitResult = .error failure) ∨
      t.Commits ∧ t'.Commits ∧ (t.committed t.outcome).Alike (t'.committed t'.outcome) := by
  rcases halike.body.commit hshort with
    ⟨failure, hfailure, hfailure'⟩ | ⟨c, c', hc, hc', hreported, hbody⟩
  · exact .inl ⟨failure, hfailure, by rw [Target.commitResult, halike.proposed_eq, hfailure']⟩
  · obtain ⟨hcommits, rfl⟩ := commits_of_ok (t := t) hc
    rw [← halike.proposed_eq] at hc'
    obtain ⟨hcommits', rfl⟩ := commits_of_ok (t := t') hc'
    exact .inr ⟨hcommits, hcommits', halike.oid_eq, halike.proposed_eq,
      congrArg some hreported, hbody⟩

/-- Alike targets that are undone are alike. -/
theorem Alike.undone (halike : (t.committed t.outcome).Alike (t'.committed t'.outcome))
    (hbody : t.body.Alike t'.body) (hstarts : t.Starts) (hstarts' : t'.Starts) :
    (t.undone t.outcome).Alike (t'.undone t'.outcome) where
  oid_eq := halike.oid_eq
  proposed_eq := halike.proposed_eq
  reported_eq := halike.reported_eq
  body := by rwa [body_undone hstarts.prior_eq, body_undone hstarts'.prior_eq]

/-- Two targets start a batch alike, with a proposal that is short for any key. -/
structure StartAlike (p : Target × Target) : Prop where
  alike : p.1.Alike p.2
  starts : p.1.Starts
  starts' : p.2.Starts
  short : ∀ column ∈ p.1.body.kind.column?, column.IsShort p.1.write.proposed

end Target

namespace Run

/-- Two runs stop at the same place for the same reason, with targets that are alike. -/
structure Alike (r r' : Run) : Prop where
  stop_eq : r'.stop = r.stop
  targets_eq : ∃ ps : List (Target × Target), (∀ p ∈ ps, p.1.Alike p.2) ∧
    r.targets = ps.map Prod.fst ∧ r'.targets = ps.map Prod.snd

variable {policy : WritePolicy} {requester : Requester} {ps : List (Target × Target)}

/-- Runs that stop at the targets of one pair, with steps that leave alike targets
alike, are alike. -/
theorem alike_of_stop {r r' : Run} {bs as : List (Target × Target)} {p : Target × Target}
    {f g h : Target → Target} {stop : Stop} {told told' : List Notification}
    (hr : r.Ends ((bs.map Prod.fst).map f ++ h p.1 :: (as.map Prod.fst).map g)
      (some ((bs.map Prod.fst).length, stop)) told)
    (hr' : r'.Ends ((bs.map Prod.snd).map f ++ h p.2 :: (as.map Prod.snd).map g)
      (some ((bs.map Prod.snd).length, stop)) told')
    (hbefore : ∀ q ∈ bs, (f q.1).Alike (f q.2)) (hp : (h p.1).Alike (h p.2))
    (hafter : ∀ q ∈ as, (g q.1).Alike (g q.2)) : r.Alike r' := by
  refine ⟨by rw [hr.stop_eq, hr'.stop_eq, List.length_map, List.length_map], ?_⟩
  refine ⟨bs.map (fun q => (f q.1, f q.2)) ++ (h p.1, h p.2) :: as.map (fun q => (g q.1, g q.2)),
    ?_, ?_, ?_⟩
  · simp only [List.mem_append, List.mem_cons, List.mem_map]
    rintro _ (⟨q, hq, rfl⟩ | rfl | ⟨q, hq, rfl⟩)
    · exact hbefore q hq
    · exact hp
    · exact hafter q hq
  · simp [hr.targets_eq, Function.comp_def]
  · simp [hr'.targets_eq, Function.comp_def]

/-- Where the first targets of pairs are cut, the pairs can be cut. -/
theorem exists_split_of_map_fst {before after : List Target} {t : Target}
    (hsplit : ps.map Prod.fst = before ++ t :: after) :
    ∃ bs p as, ps = bs ++ p :: as ∧ bs.map Prod.fst = before ∧ p.1 = t ∧
      as.map Prod.fst = after := by
  obtain ⟨bs, rest, rfl, hbs, hrest⟩ := List.map_eq_append_iff.mp hsplit
  obtain ⟨p, as, rfl, hp, has⟩ := List.map_eq_cons_iff.mp hrest
  exact ⟨bs, p, as, rfl, hbs, hp, has⟩

/-- What carries over from the first target of each pair to the second holds of all
the second ones if it holds of all the first ones. -/
theorem forall_snd_of_forall_fst {q : Target → Prop} (hcarries : ∀ p ∈ ps, q p.1 → q p.2)
    (hall : ∀ t ∈ ps.map Prod.fst, q t) : ∀ t ∈ ps.map Prod.snd, q t := by
  intro t ht
  obtain ⟨p, hp, rfl⟩ := List.mem_map.mp ht
  exact hcarries p hp (hall p.1 (List.mem_map_of_mem hp))

section Pairs

variable (hstart : ∀ p ∈ ps, Target.StartAlike p)
include hstart

/-- The targets of all pairs are at the start of a batch. -/
theorem created_fst_snd : (∀ t ∈ ps.map Prod.fst, t.write.phase = .created) ∧
    ∀ t ∈ ps.map Prod.snd, t.write.phase = .created := by
  constructor
  · intro t ht
    obtain ⟨p, hp, rfl⟩ := List.mem_map.mp ht
    exact (hstart p hp).starts.created
  · intro t ht
    obtain ⟨p, hp, rfl⟩ := List.mem_map.mp ht
    exact (hstart p hp).starts'.created

/-- Where the first target of each pair is prepared, so is the second. -/
theorem prepares_snd (hall : ∀ t ∈ ps.map Prod.fst, t.Prepares policy requester) :
    ∀ t ∈ ps.map Prod.snd, t.Prepares policy requester :=
  forall_snd_of_forall_fst (fun p hp hprepares => by
    rwa [Target.Prepares, (hstart p hp).alike.prepareJudgement_eq]) hall

/-- Where the first target of each pair is checked, so is the second. -/
theorem checks_snd (hall : ∀ t ∈ ps.map Prod.fst, t.Checks) : ∀ t ∈ ps.map Prod.snd, t.Checks :=
  forall_snd_of_forall_fst (fun p hp hchecks => by
    rwa [Target.Checks, (hstart p hp).alike.check_eq]) hall

/-- Where the first target of each pair commits, so does the second, and they end alike. -/
theorem commits_snd (hall : ∀ t ∈ ps.map Prod.fst, t.Commits) :
    (∀ t ∈ ps.map Prod.snd, t.Commits) ∧
      ∀ p ∈ ps, (p.1.committed p.1.outcome).Alike (p.2.committed p.2.outcome) := by
  have hpair : ∀ p ∈ ps, p.2.Commits ∧
      (p.1.committed p.1.outcome).Alike (p.2.committed p.2.outcome) := by
    intro p hp
    have hcommits := hall p.1 (List.mem_map_of_mem hp)
    rcases (hstart p hp).alike.commitResult (hstart p hp).short with
      ⟨failure, hfailure, -⟩ | ⟨-, hcommits', halike⟩
    · simp [Target.Commits, hfailure] at hcommits
    · exact ⟨hcommits', halike⟩
  exact ⟨forall_snd_of_forall_fst (fun p hp _ => (hpair p hp).1) hall, fun p hp => (hpair p hp).2⟩

end Pairs

/-- A target whose partner fails at commit fails there for the same reason. -/
theorem commitResult_snd {p : Target × Target} {failure : WriteFailure}
    (hstart : Target.StartAlike p) (hfailure : p.1.commitResult = .error failure) :
    p.2.commitResult = .error failure := by
  rcases hstart.alike.commitResult hstart.short with ⟨failure', hfst, hsnd⟩ | ⟨hcommits, -, -⟩
  · rwa [hsnd, ← hfst]
  · simp [Target.Commits, hfailure] at hcommits

section Stops

variable {bs as : List (Target × Target)} {p : Target × Target}
  (hstart : ∀ q ∈ bs ++ p :: as, Target.StartAlike q)
include hstart

/-- Batches of which one fails at prepare are alike. -/
theorem all_alike_of_unprepared {failure : WriteFailure}
    (hbefore : ∀ t ∈ bs.map Prod.fst, t.Prepares policy requester)
    (hfails : (p.1.prepareJudgement policy requester).verdict = .error failure) :
    (all policy requester ((bs ++ p :: as).map Prod.fst)).Alike
      (all policy requester ((bs ++ p :: as).map Prod.snd)) := by
  obtain ⟨hcreated, hcreated'⟩ := created_fst_snd hstart
  have hbefore' := prepares_snd (fun q hq => hstart q (by simp [hq])) hbefore
  have hfails' : (p.2.prepareJudgement policy requester).verdict = .error failure := by
    rw [(hstart p (by simp)).alike.prepareJudgement_eq, hfails]
  simp only [List.map_append, List.map_cons] at *
  refine alike_of_stop (g := id) (h := (Target.failedBy · failure))
    (by simpa using all_ends_of_unprepared hcreated hbefore hfails)
    (by simpa using all_ends_of_unprepared hcreated' hbefore' hfails') ?_ ?_ ?_
  · exact fun q hq => (hstart q (by simp [hq])).alike.inPhase .prepared
  · exact (hstart p (by simp)).alike.failedBy failure
  · exact fun q hq => (hstart q (by simp [hq])).alike

/-- Batches of which one is refused at check are alike. -/
theorem all_alike_of_unchecked {e : Refusal}
    (hprepares : ∀ t ∈ (bs ++ p :: as).map Prod.fst, t.Prepares policy requester)
    (hbefore : ∀ t ∈ bs.map Prod.fst, t.Checks)
    (hrefused : (p.1.body.check p.1.write.proposed).verdict = .error e) :
    (all policy requester ((bs ++ p :: as).map Prod.fst)).Alike
      (all policy requester ((bs ++ p :: as).map Prod.snd)) := by
  obtain ⟨hcreated, hcreated'⟩ := created_fst_snd hstart
  have hprepares' := prepares_snd hstart hprepares
  have hbefore' := checks_snd (fun q hq => hstart q (by simp [hq])) hbefore
  have hrefused' : (p.2.body.check p.2.write.proposed).verdict = .error e := by
    rw [(hstart p (by simp)).alike.check_eq, hrefused]
  simp only [List.map_append, List.map_cons] at *
  refine alike_of_stop (h := (Target.failed · e))
    (all_ends_of_unchecked hcreated hprepares hbefore hrefused)
    (all_ends_of_unchecked hcreated' hprepares' hbefore' hrefused') ?_ ?_ ?_
  · exact fun q hq => (hstart q (by simp [hq])).alike.inPhase .checked
  · exact (hstart p (by simp)).alike.failed e
  · exact fun q hq => (hstart q (by simp [hq])).alike.inPhase .prepared

/-- Batches of which one is refused at commit are alike. -/
theorem all_alike_of_uncommitted {e : Refusal}
    (hprepares : ∀ t ∈ (bs ++ p :: as).map Prod.fst, t.Prepares policy requester)
    (hchecks : ∀ t ∈ (bs ++ p :: as).map Prod.fst, t.Checks)
    (hbefore : ∀ t ∈ bs.map Prod.fst, t.Commits)
    (hrefused : p.1.commitResult = .error (.refused e)) :
    (all policy requester ((bs ++ p :: as).map Prod.fst)).Alike
      (all policy requester ((bs ++ p :: as).map Prod.snd)) := by
  obtain ⟨hcreated, hcreated'⟩ := created_fst_snd hstart
  have hprepares' := prepares_snd hstart hprepares
  have hchecks' := checks_snd hstart hchecks
  obtain ⟨hbefore', hcommitted⟩ := commits_snd (fun q hq => hstart q (by simp [hq])) hbefore
  have hrefused' := commitResult_snd (hstart p (by simp)) hrefused
  simp only [List.map_append, List.map_cons] at *
  refine alike_of_stop (h := (Target.failed · (Target.commitRefusal e)))
    (all_ends_of_uncommitted hcreated hprepares hchecks hbefore hrefused)
    (all_ends_of_uncommitted hcreated' hprepares' hchecks' hbefore' hrefused') ?_ ?_ ?_
  · intro q hq
    have hq' := hstart q (by simp [hq])
    exact (hcommitted q hq).undone hq'.alike.body hq'.starts hq'.starts'
  · exact (hstart p (by simp)).alike.failed _
  · exact fun q hq => (hstart q (by simp [hq])).alike.inPhase .checked

end Stops

/-- Batches of which one completes are alike. -/
theorem all_alike_of_completing (hstart : ∀ p ∈ ps, Target.StartAlike p)
    (hprepares : ∀ t ∈ ps.map Prod.fst, t.Prepares policy requester)
    (hchecks : ∀ t ∈ ps.map Prod.fst, t.Checks) (hcommits : ∀ t ∈ ps.map Prod.fst, t.Commits) :
    (all policy requester (ps.map Prod.fst)).Alike (all policy requester (ps.map Prod.snd)) := by
  obtain ⟨hcreated, hcreated'⟩ := created_fst_snd hstart
  obtain ⟨hcommits', hcommitted⟩ := commits_snd hstart hcommits
  have hends := all_ends_of_completing hcreated hprepares hchecks hcommits
  have hends' := all_ends_of_completing hcreated' (prepares_snd hstart hprepares)
    (checks_snd hstart hchecks) hcommits'
  refine ⟨hends'.stop_eq.trans hends.stop_eq.symm,
    ps.map fun p => (p.1.committed p.1.outcome, p.2.committed p.2.outcome), ?_, ?_, ?_⟩
  · intro q hq
    obtain ⟨p, hp, rfl⟩ := List.mem_map.mp hq
    exact hcommitted p hp
  · simp [hends.targets_eq, Function.comp_def]
  · simp [hends'.targets_eq, Function.comp_def]

/-- Batches whose targets start alike run alike. -/
theorem all_alike (hstart : ∀ p ∈ ps, Target.StartAlike p) :
    (all policy requester (ps.map Prod.fst)).Alike (all policy requester (ps.map Prod.snd)) := by
  cases Course.exists policy requester (ps.map Prod.fst) with
  | unprepared hsplit hbefore hfails =>
    obtain ⟨bs, p, as, rfl, rfl, rfl, rfl⟩ := exists_split_of_map_fst hsplit
    exact all_alike_of_unprepared hstart hbefore hfails
  | unchecked hsplit hprepares hbefore hrefused =>
    obtain ⟨bs, p, as, rfl, rfl, rfl, rfl⟩ := exists_split_of_map_fst hsplit
    exact all_alike_of_unchecked hstart hprepares hbefore hrefused
  | uncommitted hsplit hprepares hchecks hbefore hrefused =>
    obtain ⟨bs, p, as, rfl, rfl, rfl, rfl⟩ := exists_split_of_map_fst hsplit
    exact all_alike_of_uncommitted hstart hprepares hchecks hbefore hrefused
  | completing hprepares hchecks hcommits =>
    exact all_alike_of_completing hstart hprepares hchecks hcommits

end Run

end SnmpSet
