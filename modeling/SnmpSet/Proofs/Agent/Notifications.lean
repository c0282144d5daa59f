import SnmpSet.Proofs.Agent.Frame
import SnmpSet.Proofs.Agent.Atomicity
import SnmpSet.Proofs.Change

/-!
# What observers are told

A batch tells the observers of an object about each change of its value, whether it
is made at commit or taken back by an undo. So an accepted request tells what its
bindings change, in request order. A request that is refused at commit tells what the
bindings before the refused one have changed, and then that all this is taken back,
the latest change first. No other request tells anybody anything. Either way what is
told can be replayed on the store before the request and leads to the store after it.
-/

namespace SnmpSet

namespace Store

variable {s s' : Store} {b : VarBind} {c : Change}

/-- The observers of the object at an address, once for each attachment. -/
def observers (s : Store) (oid : Oid) : List Observer :=
  ((s.object? oid).map fun o => o.body.observers).getD []

/-- What a change is told as: each observer of the object is told about it once for
each attachment. -/
def notices (s : Store) (c : Change) : List Notification :=
  (s.observers c.oid).map fun observer => ⟨observer, c.oid, c.old, c.new⟩

/-- What a binding changes if its object's kind commits it: the value that the object
holds gives way to the one that the commit stores. -/
def change? (s : Store) (b : VarBind) : Option Change :=
  (s.object? b.oid).bind fun o =>
    match o.body.kind.commit o.body.value b.value with
    | .ok c => some ⟨b.oid, o.body.value, c.stored⟩
    | .error _ => none

/-- The observers at an address are those of the object found there. -/
theorem observers_of_object? {oid : Oid} {o : ManagedObject} (hfound : s.object? oid = some o) :
    s.observers oid = o.body.observers := by
  simp [observers, hfound]

/-- Stores with the same frames tell the same. -/
theorem notices_of_frames (hframes : ∀ oid, s'.frame? oid = s.frame? oid) :
    s'.notices = s.notices := by
  have hobservers (s : Store) (oid : Oid) :
      s.observers oid = ((s.frame? oid).map Frame.observers).getD [] := by
    rw [observers, frame?, Option.map_map]
    rfl
  funext c
  simp only [notices, hobservers, hframes]

/-- A binding changes the value of an object that commits it. -/
theorem change?_eq_some :
    s.change? b = some c ↔ ∃ body stored, s.object? b.oid = some ⟨b.oid, body⟩ ∧
      body.kind.commit body.value b.value = .ok stored ∧
      ⟨b.oid, body.value, stored.stored⟩ = c := by
  constructor
  · intro hchange
    obtain ⟨o, hfound, hcommit⟩ := Option.bind_eq_some_iff.mp hchange
    obtain ⟨body, rfl⟩ := Store.exists_body_of_object? hfound
    split at hcommit
    · next stored hstored => exact ⟨body, stored, hfound, hstored, Option.some.inj hcommit⟩
    · simp at hcommit
  · rintro ⟨body, stored, hfound, hcommit, rfl⟩
    simp [change?, hfound, hcommit]

/-- A binding changes the same in stores with the same object at its address. -/
theorem change?_congr (hobject : s.object? b.oid = s'.object? b.oid) :
    s.change? b = s'.change? b := by
  rw [change?, change?, hobject]

/-- What bindings for different objects change can be replayed, and commits them. -/
theorem exists_replay?_of_change? {bindings : List VarBind} {changes : List Change}
    (hnodup : (bindings.map VarBind.oid).Nodup)
    (hchanges : bindings.map s.change? = changes.map some) :
    ∃ after, s.replay? changes = some after ∧ s.Commits bindings after ∧
      ∀ oid ∉ bindings.map VarBind.oid, after.object? oid = s.object? oid := by
  induction bindings generalizing s changes with
  | nil =>
    obtain rfl : changes = [] := by simpa using hchanges.symm
    exact ⟨s, rfl, by simp [Commits], fun _ _ => rfl⟩
  | cons b rest ih =>
    cases changes with
    | nil => simp at hchanges
    | cons c changes =>
      obtain ⟨hunseen, hrest⟩ := List.nodup_cons.mp hnodup
      obtain ⟨hfirst, htail⟩ := List.cons.inj hchanges
      obtain ⟨body, stored, hfound, hcommit, rfl⟩ := change?_eq_some.mp hfirst
      -- the other bindings address other objects, which the first change leaves alone
      have hother : ∀ b' ∈ rest, b'.oid ≠ b.oid :=
        fun b' hb' heq => hunseen (heq ▸ List.mem_map_of_mem hb')
      have hmiddle : rest.map (s.put ⟨b.oid, { body with value := stored.stored }⟩).change? =
          changes.map some := by
        rw [← htail]
        exact List.map_congr_left fun b' hb' => change?_congr (object?_put_of_ne (hother b' hb'))
      obtain ⟨after, hreplay, hcommits, helsewhere⟩ := ih hrest hmiddle
      refine ⟨after, ?_, ?_, ?_⟩
      · exact Option.bind_eq_some_iff.mpr
          ⟨_, changed?_eq_some.mpr ⟨body, hfound, rfl, rfl⟩, hreplay⟩
      · refine List.forall_mem_cons.mpr ⟨⟨body, stored, hfound, hcommit, ?_⟩, fun b' hb' => ?_⟩
        · exact (helsewhere b.oid hunseen).trans (object?_put_self s ⟨b.oid, _⟩)
        · obtain ⟨body', stored', hfound', hcommit', hafter'⟩ := hcommits b' hb'
          exact ⟨body', stored', (object?_put_of_ne (hother b' hb')).symm.trans hfound', hcommit',
            hafter'⟩
      · intro oid hnot
        rw [List.map_cons, List.mem_cons, not_or] at hnot
        exact (helsewhere oid hnot.2).trans (object?_put_of_ne hnot.1)

end Store

/-- What a target that commits changes. -/
def Target.change (t : Target) : Change := ⟨t.write.oid, t.body.value, t.outcome.stored⟩

namespace Agent

variable {a : Agent} {requester : Requester} {bindings : List VarBind}

/-- What a request tells observers, by what comes of it. -/
inductive Announces (a : Agent) (requester : Requester) (bindings : List VarBind) :
    List Notification → Prop where
  /-- An accepted request tells what its bindings change, in request order. -/
  | accepted {changes : List Change}
      (haccepted : (a.set requester bindings).answer.isAccepted = true)
      (hchanges : bindings.map a.store.change? = changes.map some) :
      Announces a requester bindings (changes.flatMap a.store.notices)
  /-- A request that is refused at commit tells what the bindings before the refused one
  change, and takes it back in reverse. -/
  | undone {position : Nat} {e : Refusal} {changes : List Change}
      (hrefused : a.RefusedAt requester bindings .commit position e)
      (hchanges : (bindings.take position).map a.store.change? = changes.map some) :
      Announces a requester bindings (changes.flatMap a.store.notices ++
        (changes.reverse.map Change.inverse).flatMap a.store.notices)
  /-- A request that is refused otherwise tells nothing. -/
  | silent (hrefused : (a.set requester bindings).answer.isAccepted = false)
      (hearly : ∀ position e, ¬a.RefusedAt requester bindings .commit position e) :
      Announces a requester bindings []

/-- A request that is refused for a binding is not accepted. -/
theorem RefusedAt.isAccepted_eq_false {h : Hurdle} {position : Nat} {e : Refusal}
    (hrefused : a.RefusedAt requester bindings h position e) :
    (a.set requester bindings).answer.isAccepted = false := by
  rw [hrefused.answer_eq]
  exact decide_eq_false (Refusal.status_ne_noError e)

/-- What comes of a request leaves no choice of what it tells. -/
theorem Announces.unique {told told' : List Notification}
    (h : a.Announces requester bindings told) (h' : a.Announces requester bindings told') :
    told = told' := by
  have hinjective {changes changes' : List Change}
      (heq : changes.map some = changes'.map some) : changes = changes' :=
    (List.map_inj_right fun _ _ => Option.some.inj).mp heq
  cases h with
  | accepted haccepted hchanges =>
    cases h' with
    | accepted _ hchanges' => rw [hinjective (hchanges.symm.trans hchanges')]
    | undone hrefused _ => simp [hrefused.isAccepted_eq_false] at haccepted
    | silent hrefused _ => simp [hrefused] at haccepted
  | undone hrefused hchanges =>
    cases h' with
    | accepted haccepted _ => simp [hrefused.isAccepted_eq_false] at haccepted
    | undone hrefused' hchanges' =>
      obtain ⟨-, rfl, -⟩ := hrefused.blames.unique hrefused'.blames
      rw [hinjective (hchanges.symm.trans hchanges')]
    | silent _ hearly => exact absurd hrefused (hearly _ _)
  | silent hrefused hearly =>
    cases h' with
    | accepted haccepted _ => simp [hrefused] at haccepted
    | undone hrefused' _ => exact absurd hrefused' (hearly _ _)
    | silent _ _ => rfl

/-- A request that is refused before its commits and tells nothing is silent. -/
theorem RefusedAt.announces {h : Hurdle} {position : Nat} {e : Refusal}
    (hrefused : a.RefusedAt requester bindings h position e) (hearly : h ≠ .commit)
    (htold : (a.set requester bindings).notified = []) :
    a.Announces requester bindings (a.set requester bindings).notified := by
  rw [htold]
  exact .silent hrefused.isAccepted_eq_false fun position' e' hcommit =>
    hearly (hrefused.blames.unique hcommit.blames).1

variable {ts : List Target} {t : Target}

/-- A binding changes what its fresh target changes if that commits. -/
theorem change?_binding (hfresh : t.Fresh a.store) (hcommits : t.Commits) :
    a.store.change? t.binding = some t.change :=
  Store.change?_eq_some.mpr ⟨t.body, t.outcome, hfresh.found, hcommits, rfl⟩

/-- The observers of a fresh target are told about its changes. -/
theorem notices_eq (hfresh : t.Fresh a.store) (old new : Value) :
    a.store.notices ⟨t.write.oid, old, new⟩ = t.notices old new := by
  rw [Store.notices, Store.observers_of_object? hfresh.found]
  rfl

/-- What is told about changes of fresh targets is told target by target. -/
theorem flatMap_notices (hfresh : ∀ t ∈ ts, t.Fresh a.store) (old new : Target → Value) :
    (ts.map fun t => (⟨t.write.oid, old t, new t⟩ : Change)).flatMap a.store.notices =
      ts.flatMap fun t => t.notices (old t) (new t) := by
  rw [List.flatMap_map]
  exact congrArg List.flatten (List.map_congr_left fun t ht => notices_eq (hfresh t ht) _ _)

/-- The bindings of fresh targets that commit change what the targets change. -/
theorem map_change?_binding (hfresh : ∀ t ∈ ts, t.Fresh a.store) (hcommits : ∀ t ∈ ts, t.Commits) :
    (ts.map Target.binding).map a.store.change? = (ts.map Target.change).map some := by
  rw [List.map_map, List.map_map]
  exact List.map_congr_left fun t ht => change?_binding (hfresh t ht) (hcommits t ht)

/-- An accepted request tells what its bindings change. -/
theorem Accepts.announces (haccepts : a.Accepts requester bindings ts) :
    a.Announces requester bindings (a.set requester bindings).notified := by
  obtain ⟨rfl, hfresh, -, -⟩ := targetsOf_ok haccepts.paired
  have htold : (a.set requester (ts.map Target.binding)).notified =
      (ts.map Target.change).flatMap a.store.notices :=
    (set_of_accepts haccepts).2.2.trans (flatMap_notices hfresh _ _).symm
  rw [htold]
  exact .accepted (isAccepted_iff_accepts.mpr ⟨ts, haccepts⟩)
    (map_change?_binding hfresh haccepts.commits)

section Refused

variable {before after : List Target} {e : Refusal}
  (hsmall : ((before ++ t :: after).map Target.binding).length ≤ a.maxBindings)
  (hpaired : targetsOf a.store [] ((before ++ t :: after).map Target.binding) =
    .ok (before ++ t :: after))
include hsmall hpaired

/-- A request that is refused at commit tells what the bindings before the refused one
change, and takes it back. -/
theorem announces_of_uncommitted
    (hprepares : ∀ u ∈ before ++ t :: after, u.Prepares a.policy requester)
    (hchecks : ∀ u ∈ before ++ t :: after, u.Checks) (hbefore : ∀ u ∈ before, u.Commits)
    (hrefused : t.commitResult = .error (.refused e)) :
    a.Announces requester ((before ++ t :: after).map Target.binding)
      (a.set requester ((before ++ t :: after).map Target.binding)).notified := by
  have hrefusedAt := refusedAt_of_uncommitted hsmall hpaired hprepares hchecks hbefore hrefused
  obtain ⟨-, hfresh, -, -⟩ := targetsOf_ok hpaired
  have hfresh' : ∀ u ∈ before, u.Fresh a.store := fun u hu => hfresh u (by simp [hu])
  have hends := Run.all_ends_of_uncommitted (fun u hu => (hfresh u hu).created) hprepares hchecks
    hbefore hrefused
  have hback : (before.map Target.change).reverse.map Change.inverse =
      before.reverse.map fun u => ⟨u.write.oid, u.outcome.stored, u.write.prior⟩ := by
    rw [← List.map_reverse, List.map_map]
    refine List.map_congr_left fun u hu => ?_
    rw [(hfresh' u (List.mem_reverse.mp hu)).prior_eq]
    rfl
  have htold : (a.set requester ((before ++ t :: after).map Target.binding)).notified =
      (before.map Target.change).flatMap a.store.notices ++
        ((before.map Target.change).reverse.map Change.inverse).flatMap a.store.notices := by
    rw [set_of_paired (by simp) hsmall hpaired, hback,
      flatMap_notices (fun u hu => hfresh' u (List.mem_reverse.mp hu))]
    exact hends.notified_eq.trans (congrArg (· ++ _) (flatMap_notices hfresh' _ _).symm)
  have htake : ((before ++ t :: after).map Target.binding).take before.length =
      before.map Target.binding := by simp
  rw [htold]
  exact .undone hrefusedAt (by rw [htake, map_change?_binding hfresh' hbefore])

end Refused

/-- With bounded keys every request tells what is due to be told for what comes of it. -/
theorem announces_set (hbounded : a.store.KeysBounded) (requester : Requester)
    (bindings : List VarBind) :
    a.Announces requester bindings (a.set requester bindings).notified := by
  by_cases hbig : a.maxBindings < bindings.length
  · have hset : a.set requester bindings = _ := set_of_tooBig hbig
    rw [hset]
    refine .silent (by rw [hset]; rfl) fun position e hrefused => ?_
    have hanswer := hrefused.answer_eq
    -- a request that is too big is refused as a whole, with no binding to blame
    simp [hset, answerAtOnce, Response.refused] at hanswer
  have hsmall : bindings.length ≤ a.maxBindings := Nat.not_lt.mp hbig
  by_cases hempty : bindings = []
  · subst hempty
    have haccepts : a.Accepts requester [] [] := ⟨hsmall, rfl, by simp, by simp, by simp⟩
    exact haccepts.announces
  cases hpaired : targetsOf a.store [] bindings with
  | error failure =>
    refine (refusedAt_of_unpaired hempty hsmall hpaired).announces (by simp) ?_
    simp only [set, resolve, if_neg hempty, if_neg hbig, hpaired]
    rfl
  | ok ts =>
    obtain ⟨rfl, hfresh, -, -⟩ := targetsOf_ok hpaired
    have hcreated : ∀ t ∈ ts, t.write.phase = .created := fun t ht => (hfresh t ht).created
    cases Course.exists a.policy requester ts with
    | @unprepared before after t failure hsplit hbefore hfails =>
      have ht : t ∈ ts := by simp [hsplit]
      cases failure with
      | refused e =>
        subst hsplit
        refine (refusedAt_of_unprepared hsmall hpaired hbefore hfails).announces (by simp) ?_
        rw [set_of_paired hempty hsmall hpaired]
        exact (Run.all_ends_of_unprepared hcreated hbefore hfails).notified_eq
      | halted =>
        have hbounded' := hbounded _ (Store.mem_objects_of_object? (hfresh t ht).found)
        exact absurd (Target.verdict_prepare_of_halted hfails)
          (ObjectBody.verdict_prepare_ne_halted hbounded' _ _)
    | unchecked hsplit hprepares hbefore hrefused =>
      subst hsplit
      refine (refusedAt_of_unchecked hsmall hpaired hprepares hbefore hrefused).announces
        (by simp) ?_
      rw [set_of_paired hempty hsmall hpaired]
      exact (Run.all_ends_of_unchecked hcreated hprepares hbefore hrefused).notified_eq
    | uncommitted hsplit hprepares hchecks hbefore hrefused =>
      subst hsplit
      exact announces_of_uncommitted hsmall hpaired hprepares hchecks hbefore hrefused
    | completing hprepares hchecks hcommits =>
      have haccepts : a.Accepts requester (ts.map Target.binding) ts :=
        ⟨hsmall, hpaired, hprepares, hchecks, hcommits⟩
      exact haccepts.announces

/-- What a request tells can be replayed on the store before it, and leads to the store
after it. -/
theorem Announces.replays (hbounded : a.store.KeysBounded) {told : List Notification}
    (hannounces : a.Announces requester bindings told) :
    ∃ changes : List Change, told = changes.flatMap a.store.notices ∧
      a.store.replay? changes = some (a.set requester bindings).agent.store := by
  cases hannounces with
  | accepted haccepted hchanges =>
    obtain ⟨ts, haccepts⟩ := isAccepted_iff_accepts.mp haccepted
    have hnodup := (addressed_of_targetsOf haccepts.paired).nodup
    obtain ⟨after, hreplay, hcommits, helsewhere⟩ :=
      Store.exists_replay?_of_change? hnodup hchanges
    obtain rfl : after = storeAfter a.store ts :=
      Store.eq_of_commits (.refl bindings) (commits_storeAfter haccepts)
        (revalued_storeAfter haccepts.paired).elsewhere hcommits helsewhere
    rw [(set_of_accepts haccepts).2.1]
    exact ⟨_, rfl, hreplay⟩
  | @undone position _ changes hrefused hchanges =>
    have haddressed := addressed_of_refusalAt? (hrefused.blames.earliest .address (by decide))
    have hnodup : ((bindings.take position).map VarBind.oid).Nodup :=
      haddressed.nodup.sublist ((List.take_sublist _ _).map _)
    obtain ⟨after, hreplay, -, -⟩ := Store.exists_replay?_of_change? hnodup hchanges
    refine ⟨changes ++ changes.reverse.map Change.inverse, List.flatMap_append.symm, ?_⟩
    rw [Store.replay?_append, hreplay, Option.bind_some, Store.replay?_reverse_inverse hreplay,
      hrefused.agent_eq]
  | silent hrefused hearly =>
    rcases accepts_or_refused hbounded requester bindings with haccepts | ⟨-, hagent⟩
    · rw [isAccepted_iff_accepts.mpr haccepts] at hrefused
      cases hrefused
    · exact ⟨[], rfl, by rw [hagent]; rfl⟩

end Agent

end SnmpSet
