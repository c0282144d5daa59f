import SnmpSet.Batch.Run
import SnmpSet.Proofs.Batch.Steps

/-!
# What a stage does to the targets of a batch

A stage carries the targets through one step up to the first that stops it, so
its outcome depends on where that target stands. The targets before it have
taken the step, it has taken the step that stopped, and the others are as they
were. An undo of committed targets visits them the other way round.
-/

namespace SnmpSet

/-- A run ends with these targets and this stop, and has told observers this. -/
structure Run.Ends (r : Run) (targets : List Target) (stop : Option (Nat × Stop))
    (notified : List Notification) : Prop where
  targets_eq : r.targets = targets
  stop_eq : r.stop = stop
  notified_eq : r.notified = notified

/-- In a list either everything has a property, or there is a first element that
does not have it. -/
theorem forall_or_exists_first {α : Type} (p : α → Prop) (xs : List α) :
    (∀ x ∈ xs, p x) ∨
      ∃ before x after, xs = before ++ x :: after ∧ (∀ y ∈ before, p y) ∧ ¬p x := by
  induction xs with
  | nil => simp
  | cons x xs ih =>
    by_cases hx : p x
    · rcases ih with hall | ⟨before, y, after, hsplit, hbefore, hy⟩
      · exact .inl (List.forall_mem_cons.mpr ⟨hx, hall⟩)
      · exact .inr ⟨x :: before, y, after, by simp [hsplit],
          List.forall_mem_cons.mpr ⟨hx, hbefore⟩, hy⟩
    · exact .inr ⟨[], x, xs, rfl, by simp, hx⟩

namespace Run

/-- Whatever comes first in a batch without stopping it, the rest of the batch
goes on behind it. -/
theorem stage_append {step : Target → Step} {g f : Target → Target}
    {told : Target → List Notification} {before : List Target}
    (hbefore : ∀ t ∈ before, (step (g t)).Ends (f t) none (told t)) (rest : List Target) :
    (stage step (before.map g ++ rest)).Ends
      (before.map f ++ (stage step rest).targets)
      ((stage step rest).stop.map fun (position, stop) => (before.length + position, stop))
      (before.flatMap told ++ (stage step rest).notified) := by
  induction before with
  | nil => constructor <;> simp
  | cons t before ih =>
    obtain ⟨htarget, hstop, hnotified⟩ := hbefore t (by simp)
    obtain ⟨ihtargets, ihstop, ihnotified⟩ := ih fun u hu => hbefore u (by simp [hu])
    constructor
    · simp [stage, hstop, htarget, ihtargets]
    · simp only [List.map_cons, List.cons_append, stage, hstop, ihstop, Option.map_map,
        List.length_cons]
      congr 1
      funext stopped
      simp only [Function.comp_apply, Prod.mk.injEq, and_true]
      omega
    · simp [stage, hstop, hnotified, ihnotified]

/-- A stage that no target stops takes every target through its step. -/
theorem stage_ends_of_forall {step : Target → Step} {g f : Target → Target}
    {told : Target → List Notification} {ts : List Target}
    (hall : ∀ t ∈ ts, (step (g t)).Ends (f t) none (told t)) :
    (stage step (ts.map g)).Ends (ts.map f) none (ts.flatMap told) := by
  simpa [stage] using stage_append hall []

/-- A stage ends at the first target that stops it. -/
theorem stage_ends_of_first {step : Target → Step} {g f : Target → Target}
    {told : Target → List Notification} {before : List Target} {t t' : Target} {stop : Stop}
    {notified : List Notification}
    (hbefore : ∀ u ∈ before, (step (g u)).Ends (f u) none (told u))
    (hfirst : (step t).Ends t' (some stop) notified) (after : List Target) :
    (stage step (before.map g ++ t :: after)).Ends (before.map f ++ t' :: after)
      (some (before.length, stop)) (before.flatMap told ++ notified) := by
  obtain ⟨htarget, hstop, hnotified⟩ := hfirst
  simpa [stage, hstop, htarget, hnotified] using stage_append hbefore (t :: after)

/-- A stage that tells nothing takes targets that all pass it through its step. -/
theorem stage_ends_of_forall_silent {step : Target → Step} {g f : Target → Target}
    {ts : List Target} (hall : ∀ t ∈ ts, (step (g t)).Ends (f t) none []) :
    (stage step (ts.map g)).Ends (ts.map f) none [] := by
  have hnil : (ts.flatMap fun _ => []) = ([] : List Notification) :=
    List.flatMap_eq_nil_iff.mpr fun _ _ => rfl
  simpa only [hnil] using stage_ends_of_forall hall

/-- A stage that tells nothing ends at the first target that stops it. -/
theorem stage_ends_of_first_silent {step : Target → Step} {g f : Target → Target}
    {before after : List Target} {t t' : Target} {stop : Stop}
    (hbefore : ∀ u ∈ before, (step (g u)).Ends (f u) none [])
    (hfirst : (step t).Ends t' (some stop) []) :
    (stage step (before.map g ++ t :: after)).Ends (before.map f ++ t' :: after)
      (some (before.length, stop)) [] := by
  have hnil : (before.flatMap fun _ => []) = ([] : List Notification) :=
    List.flatMap_eq_nil_iff.mpr fun _ _ => rfl
  simpa only [hnil, List.append_nil] using stage_ends_of_first hbefore hfirst after

/-- A stage that ends at a target has asked whom the steps up to this one ask. -/
theorem asked_stage_of_first {step : Target → Step} {before : List Target} {t : Target}
    {stop : Stop} (hbefore : ∀ u ∈ before, (step u).stop = none)
    (hfirst : (step t).stop = some stop) (after : List Target) :
    (stage step (before ++ t :: after)).asked =
      (before.flatMap fun u => (step u).asked) ++ (step t).asked := by
  induction before with
  | nil => simp [stage, hfirst]
  | cons u before ih =>
    obtain ⟨hu, hrest⟩ := List.forall_mem_cons.mp hbefore
    have hasked := ih hrest
    simp [stage, hu, hasked]

/-- What follows a run that has not stopped adds to what it told. -/
theorem Ends.andThen {r : Run} {next : List Target → Run} {ts ts' : List Target}
    {stop : Option (Nat × Stop)} {notified notified' : List Notification}
    (hr : r.Ends ts none notified) (hnext : (next ts).Ends ts' stop notified') :
    (r.andThen next).Ends ts' stop (notified ++ notified') := by
  obtain ⟨htargets, hstop, hnotified⟩ := hr
  obtain ⟨htargets', hstop', hnotified'⟩ := hnext
  constructor <;> simp [Run.andThen, hstop, htargets, htargets', hstop', hnotified, hnotified']

/-- Nothing follows a run that has stopped. -/
theorem andThen_of_stop {r : Run} {stopped : Nat × Stop} (hstop : r.stop = some stopped)
    (next : List Target → Run) : r.andThen next = r := by
  rw [andThen, hstop]

/-- A run that has stopped ends as it is, whatever was to follow. -/
theorem Ends.andThen_of_stop {r : Run} {ts : List Target} {stopped : Nat × Stop}
    {notified : List Notification} (hr : r.Ends ts (some stopped) notified)
    (next : List Target → Run) : (r.andThen next).Ends ts (some stopped) notified := by
  rw [Run.andThen_of_stop hr.stop_eq]
  exact hr

/-- Committed targets are all undone without a fault, the last one first. -/
theorem rollback_map {ts : List Target} {g f : Target → Target}
    {told : Target → List Notification}
    (hall : ∀ t ∈ ts, (g t).undo.Ends (f t) none (told t)) :
    rollback (ts.map g) = (ts.map f, ts.reverse.flatMap told, none) := by
  have htargets : (ts.map fun t => (g t).undo.target) = ts.map f :=
    List.map_congr_left fun t ht => (hall t ht).target_eq
  have htold : (ts.reverse.flatMap fun t => (g t).undo.notified) = ts.reverse.flatMap told :=
    congrArg List.flatten
      (List.map_congr_left fun t ht => (hall t (List.mem_reverse.mp ht)).notified_eq)
  have hstops : (ts.reverse.findSome? fun t => (g t).undo.stop) = none :=
    List.findSome?_eq_none_iff.mpr fun t ht => (hall t (List.mem_reverse.mp ht)).stop_eq
  simp only [rollback, List.map_map, ← List.map_reverse, List.flatMap_map, List.findSome?_map,
    Prod.mk.injEq]
  exact ⟨htargets, htold, hstops⟩

end Run

end SnmpSet
