import SnmpSet.Proofs.Clients.Admission
import SnmpSet.Proofs.Clients.Places

/-!
# A batch under way

A batch that is taken step by step, while other things happen to other objects, is at each moment
at a place in the run that it would have on an agent if it were served there as a whole. At its end
it has the answer of that run, its objects are as the run leaves them, and their observers have
been told what the run tells.
-/

namespace SnmpSet

/-- The body of the object at an address. Where there is none, this is a body that no object
has been given. -/
def Store.bodyAt (s : Store) (oid : Oid) : ObjectBody :=
  ((s.object? oid).map ManagedObject.body).getD (.create default .plain)

namespace Store

variable {s s' : Store} {oid : Oid} {body : ObjectBody}

theorem bodyAt_of_object? (hfound : s.object? oid = some ⟨oid, body⟩) : s.bodyAt oid = body := by
  simp [bodyAt, hfound]

theorem bodyAt_congr (hsame : s.object? oid = s'.object? oid) : s.bodyAt oid = s'.bodyAt oid := by
  rw [bodyAt, bodyAt, hsame]

theorem object?_eq_bodyAt (hused : s.contains oid) : s.object? oid = some ⟨oid, s.bodyAt oid⟩ := by
  obtain ⟨o, hfound⟩ : ∃ o, s.object? oid = some o := Option.isSome_iff_exists.mp hused
  obtain ⟨body, rfl⟩ := exists_body_of_object? hfound
  rw [hfound, bodyAt_of_object? hfound]

/-- A write with its object. -/
def load (s : Store) (w : PendingWrite) : Target := ⟨w, s.bodyAt w.oid⟩

end Store

/-- Two stores hold the same object at an address, and its observers have been told the same. -/
structure Watched.SameAt (oid : Oid) (w w' : Watched Store) : Prop where
  object?_eq : w.state.object? oid = w'.state.object? oid
  told_eq : w.told.filter (fun n => n.oid = oid) = w'.told.filter fun n => n.oid = oid

namespace Watched.SameAt

variable {oid : Oid} {w w' w'' : Watched Store}

theorem refl (oid : Oid) (w : Watched Store) : w.SameAt oid w := ⟨rfl, rfl⟩

theorem symm (h : w.SameAt oid w') : w'.SameAt oid w := ⟨h.object?_eq.symm, h.told_eq.symm⟩

theorem trans (h : w.SameAt oid w') (h' : w'.SameAt oid w'') : w.SameAt oid w'' :=
  ⟨h.object?_eq.trans h'.object?_eq, h.told_eq.trans h'.told_eq⟩

/-- What is told about other objects makes no difference. -/
theorem of_told {store store' : Store} {told more : List Notification}
    (hobject : store'.object? oid = store.object? oid) (hother : ∀ n ∈ more, n.oid ≠ oid) :
    SameAt oid ⟨store', told ++ more⟩ ⟨store, told⟩ where
  object?_eq := hobject
  told_eq := by
    have hnone : more.filter (fun n => n.oid = oid) = [] :=
      List.filter_eq_nil_iff.mpr fun n hn => by simpa using hother n hn
    rw [List.filter_append, hnone, List.append_nil]

end Watched.SameAt

/-- Requests are resolved alike by agents with the same limit and the same objects at the
addresses of their bindings. -/
theorem Agent.resolve_congr {a a' : Agent} {bindings : List VarBind}
    (hmax : a.maxBindings = a'.maxBindings)
    (hsame : ∀ oid ∈ bindings.map VarBind.oid, a.store.object? oid = a'.store.object? oid) :
    a.resolve bindings = a'.resolve bindings := by
  have hpaired : targetsOf a.store [] bindings = targetsOf a'.store [] bindings :=
    targetsOf_congr fun b hb => hsame b.oid (List.mem_map_of_mem hb)
  unfold resolve
  rw [hmax, hpaired]

namespace Place

/-- A batch is at a place in the run that it would have on an agent: what it has asked and told
so far, followed by the outcome of what is left, is the outcome of that run. The store holds its
objects as it has left them so far, and their observers have been told what was told before and
then what the batch has told. -/
structure Underway (b : Agent) (past : List Notification) (now : Watched Store)
    (requester : Requester) (bindings : List VarBind) (place : Place PendingWrite)
    (ts : List Target) (asked : List Rule) (mine : List Notification) : Prop where
  resolved : b.resolve bindings = .ok ts
  found : ∀ oid ∈ bindings.map VarBind.oid, now.state.contains oid
  all_eq : Run.all b.policy requester ts =
    let left := (place.map now.state.load).outcome b.policy requester
    { left with asked := asked ++ left.asked, notified := mine ++ left.notified }
  own : ∀ n ∈ mine, n.oid ∈ bindings.map VarBind.oid
  told_eq : ∀ oid ∈ bindings.map VarBind.oid, now.told.filter (fun n => n.oid = oid) =
    (past ++ mine).filter fun n => n.oid = oid

variable {b b' : Agent} {past past' : List Notification} {now now' : Watched Store}
  {requester : Requester} {bindings : List VarBind} {place : Place PendingWrite}
  {ts : List Target} {asked : List Rule} {mine : List Notification}

/-- The bindings of a batch under way address different objects. -/
theorem Underway.nodup (h : Underway b past now requester bindings place ts asked mine) :
    (bindings.map VarBind.oid).Nodup :=
  (Agent.addressed_of_targetsOf (Agent.resolve_eq_ok.mp h.resolved).2.2).nodup

/-- Nothing that happens at other addresses matters to a batch. -/
theorem Underway.elsewhere (h : Underway b past now requester bindings place ts asked mine)
    (hitems : place.items.map PendingWrite.oid = bindings.map VarBind.oid)
    (hresembles : b'.Resembles b)
    (hserved : ∀ oid ∈ bindings.map VarBind.oid,
      Watched.SameAt oid ⟨b'.store, past'⟩ ⟨b.store, past⟩)
    (hnow : ∀ oid ∈ bindings.map VarBind.oid, now'.SameAt oid now) :
    Underway b' past' now' requester bindings place ts asked mine where
  resolved := (Agent.resolve_congr hresembles.maxBindings_eq
    fun oid hoid => (hserved oid hoid).object?_eq).trans h.resolved
  found oid hoid :=
    (congrArg Option.isSome (hnow oid hoid).object?_eq).trans (h.found oid hoid)
  all_eq := by
    have hload : place.map now'.state.load = place.map now.state.load := by
      refine map_congr fun w hw => congrArg (Target.mk w) (Store.bodyAt_congr ?_)
      exact (hnow w.oid (hitems ▸ List.mem_map_of_mem hw)).object?_eq
    rw [hresembles.policy_eq, hload]
    exact h.all_eq
  own := h.own
  told_eq oid hoid := by
    rw [(hnow oid hoid).told_eq, h.told_eq oid hoid, List.filter_append, List.filter_append,
      (hserved oid hoid).told_eq]

/-- A batch that has just been started is at the first place of its run. -/
theorem Underway.start (hresolved : b.resolve bindings = .ok ts)
    (hnow : ∀ oid ∈ bindings.map VarBind.oid, now.SameAt oid ⟨b.store, past⟩) :
    Underway b past now requester bindings (.inRound .prepare [] (ts.map Target.write))
      ts [] [] where
  resolved := hresolved
  found oid hoid := by
    obtain ⟨u, hu, rfl⟩ := List.mem_map.mp hoid
    obtain ⟨-, -, hpaired⟩ := Agent.resolve_eq_ok.mp hresolved
    exact (congrArg Option.isSome (hnow u.oid hoid).object?_eq).trans
      ((Agent.addressed_of_targetsOf hpaired).found u hu)
  all_eq := by
    obtain ⟨-, -, hpaired⟩ := Agent.resolve_eq_ok.mp hresolved
    obtain ⟨-, hfresh, -, -⟩ := Agent.targetsOf_ok hpaired
    have hload : (ts.map Target.write).map now.state.load = ts := by
      rw [List.map_map]
      refine (List.map_congr_left fun t ht => ?_).trans (List.map_id ts)
      have hoid : t.write.oid ∈ bindings.map VarBind.oid :=
        Agent.oids_of_resolve hresolved ▸ List.mem_map_of_mem ht
      have hfound := (hnow t.write.oid hoid).object?_eq.trans (hfresh t ht).found
      exact congrArg (Target.mk t.write) (Store.bodyAt_of_object? hfound)
    simp only [map, List.map_nil, hload, outcome_start, List.nil_append]
  own := nofun
  told_eq oid hoid := by rw [List.append_nil, (hnow oid hoid).told_eq]

/-- A step of a batch leads on to the next place of its run. -/
theorem Underway.step {write : PendingWrite} {step : Target → Step} {taken : Step}
    (h : Underway b past now requester bindings place ts asked mine)
    (hitems : place.items.map PendingWrite.oid = bindings.map VarBind.oid)
    (hnext : place.upNext? b.policy requester = some (write, step))
    (htaken : step (now.state.load write) = taken) :
    Underway b past
      ⟨now.state.put ⟨write.oid, taken.target.body⟩, now.told ++ taken.notified⟩ requester bindings
      (place.advance taken.target.write taken.stop) ts (asked ++ taken.asked)
      (mine ++ taken.notified) := by
  have hkeeps : taken.target.write.oid = write.oid :=
    htaken ▸ congrArg Prod.fst (frame_of_upNext? hnext (now.state.load write))
  have hown : ∀ n ∈ taken.notified, n.oid = write.oid := fun n hn =>
    oid_of_mem_notified_of_upNext? hnext (t := now.state.load write) (htaken ▸ hn)
  have hmem : write.oid ∈ bindings.map VarBind.oid :=
    hitems ▸ List.mem_map_of_mem (mem_items_of_upNext? hnext)
  constructor
  · exact h.resolved
  · intro oid hoid
    by_cases heq : oid = write.oid
    · subst heq
      simp [Store.contains_eq_isSome, Store.object?_put_self now.state ⟨write.oid, _⟩]
    · rw [Store.contains_eq_isSome, Store.object?_put_of_ne heq]
      exact h.found oid hoid
  · have hnext' : (place.map now.state.load).upNext? b.policy requester =
        some (now.state.load write, step) := by rw [upNext?_map, hnext, Option.map_some]
    have hafter : (place.advance taken.target.write taken.stop).map
          (now.state.put ⟨write.oid, taken.target.body⟩).load =
        (place.map now.state.load).advance taken.target taken.stop := by
      rw [map_advance hnext (hitems ▸ h.nodup) (f := now.state.load)]
      · refine congrArg (fun t => (place.map now.state.load).advance t taken.stop) ?_
        refine congrArg (Target.mk taken.target.write) ?_
        rw [hkeeps]
        exact Store.bodyAt_of_object? (Store.object?_put_self now.state ⟨write.oid, _⟩)
      · intro w hw hne
        exact congrArg (Target.mk w) (Store.bodyAt_congr (Store.object?_put_of_ne hne))
    rw [h.all_eq, outcome_eq_before hnext', htaken, hafter]
    simp [Step.before]
  · intro n hn
    rcases List.mem_append.mp hn with hn | hn
    · exact h.own n hn
    · exact hown n hn ▸ hmem
  · intro oid hoid
    rw [List.filter_append, h.told_eq oid hoid, ← List.filter_append, List.append_assoc]

/-- A turn leads on to the next place of the run. -/
theorem Underway.turn (h : Underway b past now requester bindings place ts asked mine) :
    Underway b past now requester bindings place.turn ts asked mine where
  resolved := h.resolved
  found := h.found
  all_eq := by
    rw [← turn_map, outcome_turn]
    exact h.all_eq
  own := h.own
  told_eq := h.told_eq

/-- A batch that has come to its end answers as it would have on the agent, leaves its objects and
tells their observers the same, and leaves all others alone. -/
theorem Underway.ended {writes : List PendingWrite} {stop : Option (Nat × Stop)}
    (h : Underway b past now requester bindings (.ended writes stop) ts asked mine)
    (hitems : writes.map PendingWrite.oid = bindings.map VarBind.oid) :
    (b.set requester bindings).answer =
        Agent.answerTo bindings (writes.map fun w => w.finish.report) stop ∧
      let served : Watched Store :=
        ⟨(b.set requester bindings).agent.store, past ++ (b.set requester bindings).notified⟩
      (∀ oid ∈ bindings.map VarBind.oid, now.SameAt oid served) ∧
      ∀ oid ∉ bindings.map VarBind.oid, served.SameAt oid ⟨b.store, past⟩ := by
  have hoids : (writes.map now.state.load).map (fun t => t.write.oid) =
      bindings.map VarBind.oid := by
    rw [List.map_map, ← hitems]
    rfl
  have hall := h.all_eq
  simp only [map, outcome, List.append_nil] at hall
  simp only [Agent.set, h.resolved, Agent.answerOf, hall]
  refine ⟨?_, fun oid hoid => ⟨?_, h.told_eq oid hoid⟩, fun oid hoid => .of_told ?_ ?_⟩
  · rw [List.map_map]
    rfl
  · have hused := h.found oid hoid
    rw [← hitems] at hoid
    obtain ⟨w, hw, rfl⟩ := List.mem_map.mp hoid
    refine (Store.object?_eq_bodyAt hused).trans (Eq.symm ?_)
    exact Agent.object?_writeBack_of_mem (hoids ▸ h.nodup) (List.mem_map_of_mem hw)
  · refine Agent.object?_writeBack_of_forall_ne fun t ht heq => hoid ?_
    rw [← hoids, ← heq]
    exact List.mem_map_of_mem ht
  · exact fun n hn heq => hoid (heq ▸ h.own n hn)

end Place

end SnmpSet
