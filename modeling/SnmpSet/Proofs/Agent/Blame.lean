import SnmpSet.Proofs.Agent.Targets
import SnmpSet.Proofs.Batch.Course

/-!
# Which binding is to blame

A binding has four hurdles to pass, one after another: its address, prepare,
check and commit. Whether it passes one of them is told by the store as it is
before the request. The binding to blame for a refusal is the first one at the
earliest hurdle that not all bindings pass, so there is at most one.
-/

namespace SnmpSet

/-- The hurdles that each binding of a request has to pass. -/
inductive Hurdle where
  | address
  | prepare
  | check
  | commit
  deriving DecidableEq

/-- Hurdles of lower rank come first for the whole request. -/
def Hurdle.rank : Hurdle → Nat
  | .address => 0
  | .prepare => 1
  | .check => 2
  | .commit => 3

/-- No two hurdles have the same rank. -/
theorem Hurdle.rank_injective {g h : Hurdle} (hrank : g.rank = h.rank) : g = h := by
  cases g <;> cases h <;> simp [rank] at hrank ⊢

/-- The reason that a judgement gives, if it refuses. -/
def Judgement.refusal? (j : Judgement WriteFailure) : Option Refusal :=
  match j.verdict with
  | .error (.refused e) => some e
  | _ => none

/-- A judgement that gives no reason accepts or halts the agent. -/
theorem Judgement.refusal?_eq_none {j : Judgement WriteFailure} :
    j.refusal? = none ↔ j.verdict = .ok () ∨ j.verdict = .error .halted := by
  unfold refusal?
  rcases hverdict : j.verdict with (_ | _) | _ <;> simp

/-- A judgement that gives a reason refuses for it. -/
theorem Judgement.refusal?_eq_some {j : Judgement WriteFailure} {e : Refusal} :
    j.refusal? = some e ↔ j.verdict = .error (.refused e) := by
  unfold refusal?
  split <;> simp_all

/-- The reason that a judgement on a write gives is that of the judgement. -/
theorem Judgement.refusal?_ofWrite_eq_some {j : Judgement Refusal} {e : Refusal} :
    j.ofWrite.refusal? = some e ↔ j.verdict = .error e := by
  rw [refusal?_eq_some, verdict_ofWrite, mapError_eq_error]
  simp

/-- A judgement that never halts and gives no reason accepts. -/
theorem Judgement.refusal?_ofWrite_eq_none {j : Judgement Refusal} :
    j.ofWrite.refusal? = none ↔ j.verdict = .ok () := by
  unfold refusal?
  cases hverdict : j.verdict <;> simp [hverdict]

namespace Agent

/-- Why a binding fails a hurdle, given the bindings before it. Past the address,
only the object that the binding addresses is asked. -/
def refusal? (a : Agent) (requester : Requester) (before : List VarBind) (b : VarBind) :
    Hurdle → Option Refusal
  | .address => addressRefusal? a.store (before.map VarBind.oid) b
  | .prepare =>
    (a.store.object? b.oid).bind fun o =>
      if a.policy.allows requester b.oid then (o.body.prepare b.value requester).refusal?
      else some (.noAccess s!"write to {b.oid} denied")
  | .check => (a.store.object? b.oid).bind fun o => (o.body.check b.value).ofWrite.refusal?
  | .commit =>
    (a.store.object? b.oid).bind fun o =>
      match o.body.kind.commit o.body.value b.value with
      | .error (.refused e) => some (Target.commitRefusal e)
      | _ => none

/-- Why the binding at a position, counted from zero, fails a hurdle. -/
def refusalAt? (a : Agent) (requester : Requester) (bindings : List VarBind) (h : Hurdle)
    (position : Nat) : Option Refusal :=
  bindings[position]?.bind fun b => a.refusal? requester (bindings.take position) b h

/-- A binding is to blame if it fails a hurdle, no binding before it does, and all
bindings pass the hurdles before. -/
structure Blames (a : Agent) (requester : Requester) (bindings : List VarBind) (h : Hurdle)
    (position : Nat) (e : Refusal) : Prop where
  refused : a.refusalAt? requester bindings h position = some e
  lowest : ∀ j < position, a.refusalAt? requester bindings h j = none
  earliest : ∀ g : Hurdle, g.rank < h.rank → ∀ j, a.refusalAt? requester bindings g j = none

variable {a : Agent} {requester : Requester} {bindings : List VarBind}

/-- At most one binding is to blame, and it fails at one hurdle for one reason. -/
theorem Blames.unique {g h : Hurdle} {i j : Nat} {d e : Refusal}
    (hi : a.Blames requester bindings g i d) (hj : a.Blames requester bindings h j e) :
    g = h ∧ i = j ∧ d = e := by
  have hrank : g.rank = h.rank := by
    rcases Nat.lt_trichotomy g.rank h.rank with hlt | heq | hgt
    · simpa [hi.refused] using hj.earliest g hlt i
    · exact heq
    · simpa [hj.refused] using hi.earliest h hgt j
  obtain rfl := Hurdle.rank_injective hrank
  have hposition : i = j := by
    rcases Nat.lt_trichotomy i j with hlt | heq | hgt
    · simpa [hi.refused] using hj.lowest i hlt
    · exact heq
    · simpa [hj.refused] using hi.lowest j hgt
  obtain rfl := hposition
  exact ⟨rfl, rfl, Option.some.inj (hi.refused.symm.trans hj.refused)⟩

/-- The binding to blame is one of the request. -/
theorem Blames.position_lt {h : Hurdle} {i : Nat} {e : Refusal}
    (hblames : a.Blames requester bindings h i e) : i < bindings.length := by
  obtain ⟨b, hb, -⟩ := Option.bind_eq_some_iff.mp hblames.refused
  exact (List.getElem?_eq_some_iff.mp hb).1

/-- Whoever fails the commit is refused as failed at commit. -/
theorem status_of_refusalAt?_commit {i : Nat} {e : Refusal}
    (hrefused : a.refusalAt? requester bindings .commit i = some e) :
    e.status = .commitFailed := by
  obtain ⟨b, -, hb⟩ := Option.bind_eq_some_iff.mp hrefused
  obtain ⟨o, -, ho⟩ := Option.bind_eq_some_iff.mp hb
  split at ho
  · obtain rfl := Option.some.inj ho
    exact Target.status_commitRefusal _
  · simp at ho

/-- Whoever fails at its address is refused as a repetition, or else for want of an object. -/
theorem status_of_refusalAt?_address {i : Nat} {e : Refusal}
    (hrefused : a.refusalAt? requester bindings .address i = some e) :
    ∃ b, bindings[i]? = some b ∧ e.status =
      if b.oid ∈ (bindings.take i).map VarBind.oid then .inconsistentValue else .noCreation := by
  obtain ⟨b, hb, hrefused⟩ := Option.bind_eq_some_iff.mp hrefused
  exact ⟨b, hb, status_of_addressRefusal? hrefused⟩

/-! ## Verdicts on bindings and on their targets -/

/-- The first binding after others is judged by itself and by these. -/
theorem refusalAt?_length (before : List VarBind) (b : VarBind) (after : List VarBind)
    (h : Hurdle) :
    a.refusalAt? requester (before ++ b :: after) h before.length =
      a.refusal? requester before b h := by
  simp [refusalAt?]

/-- Bindings that follow others do not change the verdicts on these. -/
theorem refusalAt?_append {before : List VarBind} (after : List VarBind) (h : Hurdle) {j : Nat}
    (hj : j < before.length) :
    a.refusalAt? requester (before ++ after) h j = a.refusalAt? requester before h j := by
  simp [refusalAt?, List.getElem?_append_left hj, List.take_append_of_le_length (Nat.le_of_lt hj)]

/-- Bindings that address different objects all pass the first hurdle. -/
theorem Addressed.refusalAt?_eq_none (haddressed : Addressed a.store bindings) (j : Nat) :
    a.refusalAt? requester bindings .address j = none := by
  rw [refusalAt?, Option.bind_eq_none_iff]
  intro b hb
  obtain ⟨hj, rfl⟩ := List.getElem?_eq_some_iff.mp hb
  have hunseen : bindings[j].oid ∉ (bindings.take j).map VarBind.oid := by
    have hnodup := haddressed.nodup
    rw [← List.take_append_drop j bindings, List.map_append, List.nodup_append] at hnodup
    intro hmem
    refine hnodup.2.2 _ hmem bindings[j].oid (List.mem_map_of_mem ?_) rfl
    rw [List.drop_eq_getElem_cons hj]
    exact List.mem_cons_self
  rw [refusal?, addressRefusal?, if_neg hunseen,
    if_pos (haddressed.found _ (List.getElem_mem hj))]

/-- Bindings that all pass the first hurdle address different objects. -/
theorem addressed_of_refusalAt? (hpass : ∀ j, a.refusalAt? requester bindings .address j = none) :
    Addressed a.store bindings := by
  cases hpaired : targetsOf a.store [] bindings with
  | ok ts => exact addressed_of_targetsOf hpaired
  | error failure =>
    obtain ⟨before, b, after, rfl, -, -, -, hb⟩ := targetsOf_error hpaired
    have hrefused : a.refusalAt? requester (before ++ b :: after) .address before.length =
        some failure.2 := by
      rw [refusalAt?_length, refusal?, ← hb, List.append_nil]
    simp [hpass] at hrefused

variable {t : Target}

/-- The verdict on a binding at prepare is that on its target. -/
theorem refusal?_prepare (hfresh : t.Fresh a.store) (before : List VarBind) :
    a.refusal? requester before t.binding .prepare =
      (t.prepareJudgement a.policy requester).refusal? := by
  have hfound : a.store.object? t.binding.oid = some ⟨t.write.oid, t.body⟩ := hfresh.found
  rw [refusal?, hfound, Option.bind_some, Target.prepareJudgement]
  by_cases hallowed : a.policy.allows requester t.write.oid = true
  · rw [if_pos hallowed]
    exact if_pos hallowed
  · rw [if_neg hallowed]
    exact if_neg hallowed

/-- The verdict on a binding at check is that on its target. -/
theorem refusal?_check (hfresh : t.Fresh a.store) (before : List VarBind) :
    a.refusal? requester before t.binding .check =
      (t.body.check t.write.proposed).ofWrite.refusal? := by
  simp [refusal?, Target.binding, hfresh.found]

/-- A binding whose target is refused at commit fails the last hurdle. -/
theorem refusal?_commit_of_refused {e : Refusal} (hfresh : t.Fresh a.store)
    (before : List VarBind) (hrefused : t.commitResult = .error (.refused e)) :
    a.refusal? requester before t.binding .commit = some (Target.commitRefusal e) := by
  unfold Target.commitResult at hrefused
  simp [refusal?, Target.binding, hfresh.found, hrefused]

/-- A binding whose target commits passes the last hurdle. -/
theorem refusal?_commit_of_commits (hfresh : t.Fresh a.store) (before : List VarBind)
    (hcommits : t.Commits) : a.refusal? requester before t.binding .commit = none := by
  unfold Target.Commits Target.commitResult at hcommits
  simp [refusal?, Target.binding, hfresh.found, hcommits]

/-- All bindings pass a hurdle if the verdict on each of their targets is in their favour. -/
theorem refusalAt?_eq_none_of_forall {ts : List Target} {h : Hurdle}
    (hpass : ∀ u ∈ ts, ∀ before, a.refusal? requester before u.binding h = none) (j : Nat) :
    a.refusalAt? requester (ts.map Target.binding) h j = none := by
  rw [refusalAt?, Option.bind_eq_none_iff]
  intro b hb
  obtain ⟨u, hu, rfl⟩ := List.mem_map.mp (List.mem_of_getElem? hb)
  exact hpass u hu _

/-- Where the targets before one pass a hurdle and it does not, its binding is the
first to fail. -/
theorem refusalAt?_of_first {before : List Target} {h : Hurdle} {e : Refusal}
    (hbefore : ∀ u ∈ before, ∀ seen, a.refusal? requester seen u.binding h = none)
    (hfirst : ∀ seen, a.refusal? requester seen t.binding h = some e) (after : List Target) :
    a.refusalAt? requester ((before ++ t :: after).map Target.binding) h before.length = some e ∧
      ∀ j < before.length,
        a.refusalAt? requester ((before ++ t :: after).map Target.binding) h j = none := by
  rw [List.map_append, List.map_cons]
  constructor
  · rw [← List.length_map Target.binding, refusalAt?_length]
    exact hfirst _
  · intro j hj
    rw [refusalAt?_append _ h (by simpa using hj)]
    exact refusalAt?_eq_none_of_forall hbefore j

end Agent

end SnmpSet
