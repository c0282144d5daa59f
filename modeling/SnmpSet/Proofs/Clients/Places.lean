import SnmpSet.Clients
import SnmpSet.Proofs.Agent.Frame

/-!
# A batch taken step by step

A batch that is taken one step at a time comes to the outcome of its run. What is left
from a place on has an outcome of its own: one step adds what it asks and tells to the
outcome that is left after it, and a turn between rounds adds nothing.
-/

namespace SnmpSet

/-- A run with what one step before it has asked and told. -/
def Step.before (s : Step) (r : Run) : Run :=
  { r with asked := s.asked ++ r.asked, notified := s.notified ++ r.notified }

namespace Target

/-- An undo asks nobody. -/
theorem asked_undo (t : Target) : t.undo.asked = [] := by
  unfold undo
  split
  · dsimp only
    unfold moveTo
    split <;> rfl
  · rfl

/-! ## Whom a step tells -/

theorem notified_moveTo (t : Target) (phase : Phase) (asked : List Rule)
    (told : List Notification) : (t.moveTo phase asked told).notified = told := by
  unfold moveTo
  split <;> rfl

theorem notified_refuse (t : Target) (e : Refusal) (asked : List Rule) :
    (t.refuse e asked).notified = [] := by
  unfold refuse
  split <;> rfl

/-- A preparation tells nobody anything. -/
theorem notified_prepare (policy : WritePolicy) (requester : Requester) (t : Target) :
    (t.prepare policy requester).notified = [] := by
  unfold prepare
  dsimp only
  split
  · exact notified_moveTo ..
  · exact notified_refuse ..
  · rfl

/-- A check tells nobody anything. -/
theorem notified_check (t : Target) : t.check.notified = [] := by
  unfold check
  dsimp only
  split
  · exact notified_moveTo ..
  · exact notified_refuse ..

/-- A commit tells about its own object. -/
theorem oid_of_mem_notified_commit {t : Target} {n : Notification}
    (hn : n ∈ t.commit.notified) : n.oid = t.write.oid := by
  unfold commit ObjectBody.commit at hn
  cases hcommit : t.body.kind.commit t.body.value t.write.proposed with
  | ok committed =>
    simp only [hcommit, ObjectBody.assign] at hn
    split at hn <;> (obtain ⟨observer, -, rfl⟩ := List.mem_map.mp hn; rfl)
  | error failure => cases failure <;> simp [hcommit, notified_refuse] at hn

/-- An undo tells about its own object. -/
theorem oid_of_mem_notified_undo {t : Target} {n : Notification}
    (hn : n ∈ t.undo.notified) : n.oid = t.write.oid := by
  unfold undo at hn
  split at hn
  · dsimp only [ObjectBody.assign] at hn
    rw [notified_moveTo] at hn
    obtain ⟨observer, -, rfl⟩ := List.mem_map.mp hn
    rfl
  · cases hn

end Target

namespace Run

/-- A run with the targets that were done before its own. -/
def behind (done : List Target) (r : Run) : Run :=
  { r with
    targets := done ++ r.targets
    stop := r.stop.map fun (position, stop) => (done.length + position, stop) }

/-- A run of commits with those before a refused one undone. -/
def settle (r : Run) : Run :=
  match r.stop with
  | some (position, .refused _) =>
    let (undone, notified, fault) := rollback (r.targets.take position)
    { r with
      targets := undone ++ r.targets.drop position
      stop := match fault with
        | some fault => some (position, fault)
        | none => r.stop
      notified := r.notified ++ notified }
  | _ => r

/-- All commits are those of the stage, with the ones before a refused one undone. -/
theorem commitAll_eq_settle (ts : List Target) : commitAll ts = (stage Target.commit ts).settle :=
  rfl

@[simp] theorem behind_nil (r : Run) : r.behind [] = r := by simp [behind]

variable {step : Target → Step} {t : Target} {done todo : List Target}

/-- A stage goes on behind a target that does not stop it. -/
theorem behind_stage_cons_of_none (hstop : (step t).stop = none) :
    (stage step (t :: todo)).behind done =
      (step t).before ((stage step todo).behind (done ++ [(step t).target])) := by
  have hshift : (fun x : Nat × Stop => (done.length + (x.1 + 1), x.2)) =
      fun x : Nat × Stop => (done.length + 1 + x.1, x.2) := by
    funext x
    simp only [Prod.mk.injEq, and_true]
    omega
  simp [behind, stage, hstop, Step.before, Function.comp_def, hshift]

/-- A stage ends behind the target that stops it. -/
theorem behind_stage_cons_of_some {stop : Stop} (hstop : (step t).stop = some stop) :
    (stage step (t :: todo)).behind done =
      (step t).before ⟨done ++ (step t).target :: todo, some (done.length, stop), [], []⟩ := by
  simp [behind, stage, hstop, Step.before]

/-- What a step has asked and told stays before what follows. -/
theorem before_andThen (s : Step) (r : Run) (next : List Target → Run) :
    (s.before r).andThen next = s.before (r.andThen next) := by
  unfold andThen
  cases hstop : r.stop <;> simp [Step.before, hstop]

/-- What a step has asked and told stays before any undoing. -/
theorem before_settle (s : Step) (r : Run) : (s.before r).settle = s.before r.settle := by
  unfold settle
  rcases hstop : r.stop with _ | ⟨position, _ | _ | _⟩ <;> simp [Step.before, hstop]

end Run

namespace Place

/-! ## What is left of a batch -/

variable {policy : WritePolicy} {requester : Requester}

/-- The outcome of what is left of a batch. -/
def outcome (policy : WritePolicy) (requester : Requester) : Place Target → Run
  | .inRound .prepare done todo =>
    (((Run.stage (Target.prepare policy requester) todo).behind done).andThen
      (Run.stage Target.check)).andThen Run.commitAll
  | .inRound .check done todo =>
    ((Run.stage Target.check todo).behind done).andThen Run.commitAll
  | .inRound .commit done todo => ((Run.stage Target.commit todo).behind done).settle
  | .undoing todo done position reason fault =>
    let steps := todo.map Target.undo
    { targets := (steps.map Step.target).reverse ++ done
      stop := some (position, (fault.or (steps.findSome? Step.stop)).getD (.refused reason))
      asked := []
      notified := steps.flatMap Step.notified }
  | .ended all stop => ⟨all, stop, [], []⟩

/-- All of a batch is left at its start. -/
theorem outcome_start (ts : List Target) :
    (Place.inRound .prepare [] ts).outcome policy requester = Run.all policy requester ts := by
  rw [outcome, Run.behind_nil, Run.all]

/-- Where a commit is refused, the commits before it are left to undo. -/
theorem settle_of_refused (done todo : List Target) (t : Target) (e : Refusal) :
    Run.settle ⟨done ++ t :: todo, some (done.length, .refused e), [], []⟩ =
      (Place.undoing done.reverse (t :: todo) done.length e none).outcome policy requester := by
  simp only [Run.settle, Run.rollback, outcome, List.take_left', List.drop_left',
    ← List.map_reverse, List.reverse_reverse, Option.none_or, List.nil_append]
  cases (done.reverse.map Target.undo).findSome? Step.stop <;> simp

/-- A target is next in a round, or among the commits to undo. -/
theorem eq_of_upNext? {α : Type} {place : Place α} {x : α} {step : Target → Step}
    (hnext : place.upNext? policy requester = some (x, step)) :
    (∃ round done todo, place = .inRound round done (x :: todo) ∧
        step = round.step policy requester) ∨
      ∃ todo done position reason fault,
        place = .undoing (x :: todo) done position reason fault ∧ step = Target.undo := by
  unfold upNext? at hnext
  split at hnext
  · obtain ⟨rfl, rfl⟩ := Prod.mk.inj (Option.some.inj hnext)
    exact .inl ⟨_, _, _, rfl, rfl⟩
  · obtain ⟨rfl, rfl⟩ := Prod.mk.inj (Option.some.inj hnext)
    exact .inr ⟨_, _, _, _, _, rfl, rfl⟩
  · cases hnext

/-- Whatever step is next, it keeps the frame of its target. -/
theorem frame_of_upNext? {α : Type} {place : Place α} {x : α} {step : Target → Step}
    (hnext : place.upNext? policy requester = some (x, step)) (t : Target) :
    (step t).target.frame = t.frame := by
  obtain ⟨round, _, _, -, rfl⟩ | ⟨_, _, _, _, _, -, rfl⟩ := eq_of_upNext? hnext
  · cases round with
    | prepare => exact Target.frame_prepare policy requester t
    | check => exact Target.frame_check t
    | commit => exact Target.frame_commit t
  · exact Target.frame_undo t

/-- Whatever step is next, it tells about its own object. -/
theorem oid_of_mem_notified_of_upNext? {α : Type} {place : Place α} {x : α} {step : Target → Step}
    (hnext : place.upNext? policy requester = some (x, step)) {t : Target} {n : Notification}
    (hn : n ∈ (step t).notified) : n.oid = t.write.oid := by
  obtain ⟨round, _, _, -, rfl⟩ | ⟨_, _, _, _, _, -, rfl⟩ := eq_of_upNext? hnext
  · cases round with
    | prepare => simp [Round.step, Target.notified_prepare] at hn
    | check => simp [Round.step, Target.notified_check] at hn
    | commit => exact Target.oid_of_mem_notified_commit hn
  · exact Target.oid_of_mem_notified_undo hn

/-- The outcome from a place on is that of the step on the next target, followed by the outcome
from the place after it. -/
theorem outcome_eq_before {place : Place Target} {t : Target} {step : Target → Step}
    (hnext : place.upNext? policy requester = some (t, step)) :
    place.outcome policy requester =
      (step t).before ((place.advance (step t).target (step t).stop).outcome policy requester) := by
  obtain ⟨round, done, todo, rfl, rfl⟩ | ⟨todo, done, position, reason, fault, rfl, rfl⟩ :=
    eq_of_upNext? hnext
  · cases hstop : (round.step policy requester t).stop with
    | none =>
      cases round <;> simp only [Round.step] at hstop <;>
        simp only [outcome, advance, Round.step, Run.behind_stage_cons_of_none hstop,
          Run.before_andThen, Run.before_settle]
    | some stop =>
      cases round with
      | prepare | check =>
        simp only [Round.step] at hstop
        simp only [outcome, advance, Round.step, Run.behind_stage_cons_of_some hstop,
          Run.before_andThen]
        rfl
      | commit =>
        simp only [Round.step] at hstop
        rw [outcome, Run.behind_stage_cons_of_some hstop, Run.before_settle]
        cases stop with
        | refused e => exact congrArg _ (settle_of_refused done todo _ e)
        | faulted | halted => rfl
  · have hfirst : (fault.or (((t :: todo).map Target.undo).findSome? Step.stop)) =
        (fault.or t.undo.stop).or ((todo.map Target.undo).findSome? Step.stop) := by
      rw [List.map_cons, List.findSome?_cons]
      cases fault <;> cases t.undo.stop <;> rfl
    rw [outcome, hfirst]
    simp [outcome, advance, Step.before, Target.asked_undo]

/-- A turn leaves the same outcome. -/
theorem outcome_turn (place : Place Target) :
    place.turn.outcome policy requester = place.outcome policy requester := by
  fun_cases turn place with
  | case1 round done next hnext =>
    cases round with
    | prepare | check =>
      obtain rfl := Option.some.inj hnext
      simp [outcome, Run.stage, Run.behind, Run.andThen, Run.commitAll_eq_settle]
    | commit => cases hnext
  | case2 round done hnext =>
    cases round with
    | prepare | check => cases hnext
    | commit => simp [outcome, Run.stage, Run.behind, Run.settle]
  | case3 => simp [outcome]
  | case4 => rfl

/-! ## What is kept of the targets -/

section Map

variable {α β : Type}

/-- The same place, with something else kept of each target. -/
def map (f : α → β) : Place α → Place β
  | .inRound round done todo => .inRound round (done.map f) (todo.map f)
  | .undoing todo done position reason fault =>
    .undoing (todo.map f) (done.map f) position reason fault
  | .ended all stop => .ended (all.map f) stop

theorem map_congr {f g : α → β} {place : Place α} (hsame : ∀ x ∈ place.items, f x = g x) :
    place.map f = place.map g := by
  cases place <;> simp_all [map, items]

/-- The same step is next, whatever is kept of its target. -/
theorem upNext?_map (f : α → β) (place : Place α) :
    (place.map f).upNext? policy requester =
      (place.upNext? policy requester).map fun (x, step) => (f x, step) := by
  cases place with
  | inRound _ _ todo | undoing todo => cases todo <;> rfl
  | ended => rfl

/-- A turn is the same, whatever is kept of the targets. -/
theorem turn_map (f : α → β) (place : Place α) : (place.map f).turn = place.turn.map f := by
  cases place with
  | inRound round _ todo => cases todo <;> cases round <;> rfl
  | undoing todo => cases todo <;> rfl
  | ended => rfl

/-- A turn leaves what is kept of the targets as it is. -/
@[simp] theorem items_turn (place : Place α) : place.turn.items = place.items := by
  fun_cases turn place <;> simp [items]

variable {place : Place α} {x : α} {step : Target → Step}

/-- What is next is kept. -/
theorem mem_items_of_upNext? (hnext : place.upNext? policy requester = some (x, step)) :
    x ∈ place.items := by
  obtain ⟨_, _, _, rfl, -⟩ | ⟨_, _, _, _, _, rfl, -⟩ := eq_of_upNext? hnext <;> simp [items]

/-- After a step the targets are in the same order. -/
theorem map_items_advance {f : α → β} (hnext : place.upNext? policy requester = some (x, step))
    {y : α} (hsame : f y = f x) (stop : Option Stop) :
    (place.advance y stop).items.map f = place.items.map f := by
  obtain ⟨round, _, _, rfl, -⟩ | ⟨_, _, _, _, _, rfl, -⟩ := eq_of_upNext? hnext
  · rcases stop with _ | _ | _ | _ <;> cases round <;> simp [advance, items, hsame]
  · simp [advance, items, hsame]

/-- A step leaves what is kept of all targets but its own, each of which has a key of its
own. -/
theorem map_advance {κ : Type} {key : α → κ} {f g : α → β}
    (hnext : place.upNext? policy requester = some (x, step))
    (hnodup : (place.items.map key).Nodup)
    (hsame : ∀ z ∈ place.items, key z ≠ key x → g z = f z) (y : α) (stop : Option Stop) :
    (place.advance y stop).map g = (place.map f).advance (g y) stop := by
  have hothers (before after : List α) (hsplit : place.items = before ++ x :: after) :
      before.map g = before.map f ∧ after.map g = after.map f := by
    rw [hsplit, List.map_append, List.map_cons, List.nodup_append, List.nodup_cons] at hnodup
    obtain ⟨-, ⟨hafter, -⟩, hbefore⟩ := hnodup
    constructor <;> refine List.map_congr_left fun z hz => hsame z (by simp [hsplit, hz]) ?_
    · exact hbefore _ (List.mem_map_of_mem hz) _ List.mem_cons_self
    · exact fun heq => hafter (heq ▸ List.mem_map_of_mem hz)
  obtain ⟨round, done, todo, rfl, -⟩ | ⟨todo, done, position, reason, fault, rfl, -⟩ :=
    eq_of_upNext? hnext
  · obtain ⟨hdone, htodo⟩ := hothers done todo rfl
    rcases stop with _ | _ | _ | _ <;> cases round <;> simp [advance, map, hdone, htodo]
  · obtain ⟨htodo, hdone⟩ := hothers todo.reverse done (by simp [items])
    rw [List.map_reverse, List.map_reverse, List.reverse_inj] at htodo
    simp [advance, map, hdone, htodo]

end Map

end Place

end SnmpSet
