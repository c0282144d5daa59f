import Mathlib.Data.List.Induction
import Mathlib.Data.List.Perm.Subperm
import SnmpSet.PendingWrite

/-!
# The life of a pending write

A pending write can be called in any order and with any arguments. Each call checks the
phases before it changes anything, and the phases only lead forward. So a write enters no
phase twice, takes what it reports and why it was refused no more than once, and does not
change any more at the end. The stored value is given up by the call that ends the write;
moving on to the last phase keeps it.
-/

namespace SnmpSet

namespace Phase

/-- The place of a phase in the order in which a write goes through the phases. -/
def rank : Phase → Nat
  | .created => 0
  | .prepared => 1
  | .checked => 2
  | .committed => 3
  | .undoApplied => 4
  | .failed => 5
  | .cleaned => 6

/-- Steps between phases lead forward. -/
theorem rank_lt_of_mem_next {p q : Phase} (hnext : q ∈ p.next) : p.rank < q.rank := by
  cases p <;> cases q <;> revert hnext <;> decide

/-- The last phase lies behind all others. -/
theorem rank_lt_cleaned {p : Phase} (hphase : p ≠ .cleaned) : p.rank < cleaned.rank := by
  revert hphase
  cases p <;> decide

/-- No phase lies behind the last. -/
theorem rank_le (p : Phase) : p.rank ≤ cleaned.rank := by cases p <;> decide

/-- Every phase is listed. -/
theorem mem_all (p : Phase) : p ∈ all := by cases p <;> decide

/-- Phases of ascending rank are not more than there are phases. -/
theorem length_le_of_pairwise {phases : List Phase}
    (hascending : phases.Pairwise fun p q => p.rank < q.rank) : phases.length ≤ 7 := by
  have hnodup : phases.Nodup := hascending.imp fun hlt heq => by simp [heq] at hlt
  exact (hnodup.subperm fun p _ => p.mem_all).length_le

end Phase

namespace PendingWrite

/-! ## Calls that change a write in place -/

/-- A change that is made to a write in place. What it changes before a fault stays changed. -/
abbrev Edit := EStateM Fault PendingWrite Unit

/-- What a change answers, with what it leaves of the write. -/
abbrev Outcome := EStateM.Result Fault PendingWrite Unit

namespace Edit

/-- Moves the write on. -/
def moveTo (target : Phase) : Edit := do
  let w ← get
  match w.phase.step target with
  | .ok () => set { w with phase := target }
  | .error e => throw (.ofStepError w.oid e)

/-- Moves the write on and records why it is refused. -/
def refuse (e : Refusal) : Edit := do
  moveTo .failed
  modify fun w => { w with refusal := some e }

/-- Moves the write on and records what was stored and what to report. -/
def commit (stored reported : Value) : Edit := do
  moveTo .committed
  modify fun w => { w with stored := some stored }
  modify fun w => { w with reported := some reported }

/-- Gives up the stored value and ends the write, unless it has ended. -/
def finish : Edit := do
  let w ← get
  if w.phase = .cleaned then
    return
  modify fun w => { w with stored := none }
  modify fun w => { w with phase := .cleaned }

/-- Hides the values from diagnostics, or shows them again. -/
def hide (on : Bool) : Edit := modify fun w => { w with hidden := on }

end Edit

/-- A call to a write. -/
inductive Call where
  | moveTo (target : Phase)
  | refuse (e : Refusal)
  | commit (stored reported : Value)
  | finish
  | hide (on : Bool)

/-- The change that a call makes. -/
def Call.edit : Call → Edit
  | moveTo target => Edit.moveTo target
  | refuse e => Edit.refuse e
  | commit stored reported => Edit.commit stored reported
  | finish => Edit.finish
  | hide on => Edit.hide on

/-- The phase that a call is to bring a write to. -/
def Call.target? : Call → Option Phase
  | moveTo target => some target
  | refuse _ => some .failed
  | commit .. => some .committed
  | finish => some .cleaned
  | hide _ => none

/-- What a call answers, with what it leaves of the write. -/
def perform (w : PendingWrite) (call : Call) : Outcome := call.edit.run w

/-- The write after a call, granted or not. -/
def after (w : PendingWrite) (call : Call) : PendingWrite :=
  match w.perform call with
  | .ok () w' => w'
  | .error _ w' => w'

/-- The write after calls. -/
def afterCalls (w : PendingWrite) (calls : List Call) : PendingWrite := calls.foldl after w

/-- The phases that calls bring a write to, one after another. -/
def entered (w : PendingWrite) : List Call → List Phase
  | [] => []
  | call :: calls =>
    if (w.after call).phase = w.phase then (w.after call).entered calls
    else (w.after call).phase :: (w.after call).entered calls

/-- The outcome of an attempt to change a write, if a fault leaves the write as it was. -/
def attempt (w : PendingWrite) : Except Fault PendingWrite → Outcome
  | .ok w' => .ok () w'
  | .error f => .error f w

variable {w w' : PendingWrite} {call : Call}

/-! ## What one call does -/

/-- Moving on in place is moving on, and a fault leaves the write as it was. -/
theorem perform_moveTo (w : PendingWrite) (target : Phase) :
    w.perform (.moveTo target) = w.attempt (w.moveTo target) := by
  have hedit : w.perform (.moveTo target) =
      (match w.phase.step target with
        | .ok () => set { w with phase := target }
        | .error e => throw (.ofStepError w.oid e) : Edit) w := rfl
  rw [hedit, PendingWrite.moveTo]
  cases w.phase.step target <;> rfl

/-- A change that starts by moving on comes to nothing if the write cannot move on. -/
theorem bind_moveTo (w : PendingWrite) (target : Phase) (rest : Edit) :
    (Edit.moveTo target >>= fun _ => rest) w =
      match w.moveTo target with
      | .ok w' => rest w'
      | .error f => .error f w := by
  have hmove : Edit.moveTo target w = w.attempt (w.moveTo target) := w.perform_moveTo target
  simp only [bind, EStateM.bind, hmove]
  cases w.moveTo target <;> rfl

/-- Refusing in place is refusing, and a fault leaves the write as it was. -/
theorem perform_refuse (w : PendingWrite) (e : Refusal) :
    w.perform (.refuse e) = w.attempt (w.refuse e) := by
  refine (bind_moveTo w .failed _).trans ?_
  rw [PendingWrite.refuse]
  cases w.moveTo .failed <;> rfl

/-- Committing in place is committing, and a fault leaves the write as it was. -/
theorem perform_commit (w : PendingWrite) (stored reported : Value) :
    w.perform (.commit stored reported) = w.attempt (w.commit stored reported) := by
  refine (bind_moveTo w .committed _).trans ?_
  rw [PendingWrite.commit]
  cases w.moveTo .committed <;> rfl

/-- Ending in place is ending. -/
theorem perform_finish (w : PendingWrite) : w.perform .finish = .ok () w.finish := by
  have hedit : w.perform .finish =
      (if w.phase = .cleaned then pure () else do
        modify fun w => { w with stored := none }
        modify fun w => { w with phase := .cleaned } : Edit) w := rfl
  rw [hedit, PendingWrite.finish]
  split <;> rfl

/-- Hiding in place is hiding. -/
theorem perform_hide (w : PendingWrite) (on : Bool) :
    w.perform (.hide on) = .ok () (w.hide on) := rfl

/-- What a granted call makes of a write. -/
inductive Becomes (w : PendingWrite) : Call → PendingWrite → Prop
  | moved {target : Phase} (hnext : target ∈ w.phase.next) :
    Becomes w (.moveTo target) { w with phase := target }
  | refused (hnext : .failed ∈ w.phase.next) (e : Refusal) :
    Becomes w (.refuse e) { w with phase := .failed, refusal := some e }
  | committed (hnext : .committed ∈ w.phase.next) (stored reported : Value) :
    Becomes w (.commit stored reported)
      { w with phase := .committed, stored := some stored, reported := some reported }
  | finished (hphase : w.phase ≠ .cleaned) :
    Becomes w .finish { w with stored := none, phase := .cleaned }
  | unfinished (hphase : w.phase = .cleaned) : Becomes w .finish w
  | hidden (on : Bool) : Becomes w (.hide on) (w.hide on)

/-- A write moves on just where the phases allow it. -/
theorem moveTo_eq (w : PendingWrite) (target : Phase) :
    w.moveTo target = if target ∈ w.phase.next then .ok { w with phase := target }
      else .error (.outOfOrder w.oid w.phase target) := by
  unfold PendingWrite.moveTo Phase.step
  by_cases hnext : target ∈ w.phase.next
  · rw [if_pos hnext, if_pos hnext]
  · rw [if_neg hnext, if_neg hnext]
    rfl

/-- A call is granted, or it faults and leaves the write as it was. -/
theorem perform_cases (w : PendingWrite) (call : Call) :
    (∃ w', w.Becomes call w' ∧ w.perform call = .ok () w') ∨
      ∃ f, w.perform call = .error f w := by
  cases call with
  | moveTo target =>
    rw [perform_moveTo, moveTo_eq]
    by_cases hnext : target ∈ w.phase.next
    · rw [if_pos hnext]
      exact .inl ⟨_, .moved hnext, rfl⟩
    · rw [if_neg hnext]
      exact .inr ⟨_, rfl⟩
  | refuse e =>
    rw [perform_refuse, PendingWrite.refuse, moveTo_eq]
    by_cases hnext : .failed ∈ w.phase.next
    · rw [if_pos hnext]
      exact .inl ⟨_, .refused hnext e, rfl⟩
    · rw [if_neg hnext]
      exact .inr ⟨_, rfl⟩
  | commit stored reported =>
    rw [perform_commit, PendingWrite.commit, moveTo_eq]
    by_cases hnext : .committed ∈ w.phase.next
    · rw [if_pos hnext]
      exact .inl ⟨_, .committed hnext stored reported, rfl⟩
    · rw [if_neg hnext]
      exact .inr ⟨_, rfl⟩
  | finish =>
    rw [perform_finish, PendingWrite.finish]
    by_cases hphase : w.phase = .cleaned
    · rw [if_pos hphase]
      exact .inl ⟨w, .unfinished hphase, rfl⟩
    · rw [if_neg hphase]
      exact .inl ⟨_, .finished hphase, rfl⟩
  | hide on => exact .inl ⟨_, .hidden on, perform_hide w on⟩

/-- After a call a write is as a granted call leaves it, or as it was. -/
theorem after_cases (w : PendingWrite) (call : Call) :
    w.Becomes call (w.after call) ∨ w.after call = w := by
  unfold after
  rcases w.perform_cases call with ⟨w', hbecomes, hperform⟩ | ⟨f, hperform⟩ <;> rw [hperform]
  · exact .inl hbecomes
  · exact .inr rfl

namespace Becomes

variable (hbecomes : w.Becomes call w')
include hbecomes

/-- A call changes neither whose write it is nor what the write asks for and started from. -/
theorem same : w'.oid = w.oid ∧ w'.proposed = w.proposed ∧ w'.prior = w.prior := by
  cases hbecomes <;> exact ⟨rfl, rfl, rfl⟩

/-- A granted call leads forward to its target, unless it ends what has ended. -/
theorem forward {target : Phase} (htarget : call.target? = some target) :
    w.phase.rank < target.rank ∧ w'.phase = target ∨
      call = .finish ∧ w.phase = .cleaned ∧ w' = w := by
  cases hbecomes with
  | moved hnext =>
    obtain rfl := Option.some.inj htarget
    exact .inl ⟨Phase.rank_lt_of_mem_next hnext, rfl⟩
  | refused hnext e =>
    obtain rfl := Option.some.inj htarget
    exact .inl ⟨Phase.rank_lt_of_mem_next hnext, rfl⟩
  | committed hnext stored reported =>
    obtain rfl := Option.some.inj htarget
    exact .inl ⟨Phase.rank_lt_of_mem_next hnext, rfl⟩
  | finished hphase =>
    obtain rfl := Option.some.inj htarget
    exact .inl ⟨Phase.rank_lt_cleaned hphase, rfl⟩
  | unfinished hphase => exact .inr ⟨rfl, hphase, rfl⟩
  | hidden on => cases htarget

/-- A call without a target leaves the phase. -/
theorem phase_eq (htarget : call.target? = none) : w'.phase = w.phase := by
  cases hbecomes with
  | hidden on => rfl
  | moved _ | refused _ _ | committed _ _ _ | finished _ | unfinished _ => cases htarget

/-- The phase stays or goes forward. -/
theorem phase_eq_or_lt : w'.phase = w.phase ∨ w.phase.rank < w'.phase.rank := by
  cases htarget : call.target? with
  | none => exact .inl (hbecomes.phase_eq htarget)
  | some target =>
    rcases hbecomes.forward htarget with ⟨hlt, rfl⟩ | ⟨-, -, rfl⟩
    · exact .inr hlt
    · exact .inl rfl

end Becomes

/-! ## What every run of calls keeps -/

/-- Only a write that was committed has something to report, and only one that failed has
a reason for it. -/
structure Consistent (w : PendingWrite) : Prop where
  committed_le : w.reported ≠ none → Phase.committed.rank ≤ w.phase.rank
  failed_le : w.refusal ≠ none → Phase.failed.rank ≤ w.phase.rank

/-- A stored value is there from the commit until the write is ended. In the last phase it
is still there only if a call moved the write there. -/
def CarriesStored (calls : List Call) (w : PendingWrite) : Prop :=
  w.stored = none ∨ w.phase ∈ [.committed, .undoApplied, .failed] ∨
    w.phase = .cleaned ∧ .moveTo .cleaned ∈ calls

namespace Becomes

variable (hbecomes : w.Becomes call w')
include hbecomes

/-- A granted call sets what a write reports and why it was refused only in the phase that
it brings the write to. -/
theorem consistent (hw : w.Consistent) : w'.Consistent := by
  have hforward (target : Phase) (hlt : w.phase.rank < target.rank) :
      (w.reported ≠ none → Phase.committed.rank ≤ target.rank) ∧
        (w.refusal ≠ none → Phase.failed.rank ≤ target.rank) :=
    ⟨fun h => Nat.le_trans (hw.committed_le h) (Nat.le_of_lt hlt),
      fun h => Nat.le_trans (hw.failed_le h) (Nat.le_of_lt hlt)⟩
  cases hbecomes with
  | moved hnext =>
    have hkept := hforward _ (Phase.rank_lt_of_mem_next hnext)
    exact ⟨hkept.1, hkept.2⟩
  | refused hnext e =>
    have hkept := hforward _ (Phase.rank_lt_of_mem_next hnext)
    exact ⟨hkept.1, fun _ => Nat.le_refl _⟩
  | committed hnext stored reported =>
    have hkept := hforward _ (Phase.rank_lt_of_mem_next hnext)
    exact ⟨fun _ => Nat.le_refl _, hkept.2⟩
  | finished hphase =>
    have hkept := hforward _ (Phase.rank_lt_cleaned hphase)
    exact ⟨hkept.1, hkept.2⟩
  | unfinished hphase => exact hw
  | hidden on => exact ⟨hw.committed_le, hw.failed_le⟩

end Becomes

/-- A write that may still be committed has nothing to report. -/
theorem Consistent.reported_eq_none (hw : w.Consistent) (hnext : .committed ∈ w.phase.next) :
    w.reported = none := by
  by_contra hreported
  have hle := hw.committed_le hreported
  have hlt := Phase.rank_lt_of_mem_next hnext
  omega

/-- A write that may still fail has no reason for it. -/
theorem Consistent.refusal_eq_none (hw : w.Consistent) (hnext : .failed ∈ w.phase.next) :
    w.refusal = none := by
  by_contra hrefusal
  have hle := hw.failed_le hrefusal
  have hlt := Phase.rank_lt_of_mem_next hnext
  omega

namespace Becomes

variable (hbecomes : w.Becomes call w')
include hbecomes

/-- What there is to report stays as it is. -/
theorem reported_eq (hw : w.Consistent) {v : Value} (hreported : w.reported = some v) :
    w'.reported = some v := by
  cases hbecomes with
  | committed hnext stored reported =>
    rw [hw.reported_eq_none hnext] at hreported
    cases hreported
  | moved _ | refused _ _ | finished _ | unfinished _ | hidden _ => exact hreported

/-- The reason why a write was refused stays as it is. -/
theorem refusal_eq (hw : w.Consistent) {e : Refusal} (hrefusal : w.refusal = some e) :
    w'.refusal = some e := by
  cases hbecomes with
  | refused hnext e' =>
    rw [hw.refusal_eq_none hnext] at hrefusal
    cases hrefusal
  | moved _ | committed _ _ _ | finished _ | unfinished _ | hidden _ => exact hrefusal

/-- A stored value goes along to the phases after the commit, and is given up at the end. -/
theorem carriesStored {calls : List Call} (hw : w.CarriesStored calls) :
    w'.CarriesStored (calls ++ [call]) := by
  have hkept : w.CarriesStored (calls ++ [call]) :=
    hw.imp_right (Or.imp_right (And.imp_right (List.mem_append_left _)))
  cases hbecomes with
  | @moved target hnext =>
    rcases hw with hnone | hphase | ⟨hphase, -⟩
    · exact .inl hnone
    · -- From a phase with a stored value the write moves to another one, or to the last.
      have htarget : target ∈ [.committed, .undoApplied, .failed] ∨ target = .cleaned := by
        revert hphase hnext
        cases w.phase <;> cases target <;> decide
      refine .inr (htarget.imp_right ?_)
      rintro rfl
      exact ⟨rfl, List.mem_append_right _ (List.mem_singleton.mpr rfl)⟩
    · rw [hphase] at hnext
      cases hnext
  | refused _ _ => exact .inr (.inl (by simp))
  | committed _ _ _ => exact .inr (.inl (by simp))
  | finished _ => exact .inl rfl
  | unfinished _ => exact hkept
  | hidden _ => exact hkept

end Becomes

variable {oid : Oid} {proposed prior : Value} {calls : List Call}

/-- What a write that was started is like after calls. -/
structure Lived (oid : Oid) (proposed prior : Value) (calls : List Call) (w : PendingWrite) :
    Prop where
  same : w.oid = oid ∧ w.proposed = proposed ∧ w.prior = prior
  consistent : w.Consistent
  carriesStored : w.CarriesStored calls

/-- A write that is started has nothing to report and no stored value. -/
theorem lived_start (oid : Oid) (proposed prior : Value) :
    Lived oid proposed prior [] (start oid proposed prior) :=
  ⟨⟨rfl, rfl, rfl⟩, ⟨fun h => absurd rfl h, fun h => absurd rfl h⟩, .inl rfl⟩

/-- One more call keeps what a write is like. -/
theorem Lived.after (h : Lived oid proposed prior calls w) (call : Call) :
    Lived oid proposed prior (calls ++ [call]) (w.after call) := by
  rcases w.after_cases call with hbecomes | hkept
  · have hsame := hbecomes.same
    exact ⟨⟨hsame.1.trans h.same.1, hsame.2.1.trans h.same.2.1, hsame.2.2.trans h.same.2.2⟩,
      hbecomes.consistent h.consistent, hbecomes.carriesStored h.carriesStored⟩
  · rw [hkept]
    exact ⟨h.same, h.consistent,
      h.carriesStored.imp_right (Or.imp_right (And.imp_right (List.mem_append_left _)))⟩

/-- The last call is made to the write that the others leave. -/
theorem afterCalls_append (w : PendingWrite) (calls : List Call) (call : Call) :
    w.afterCalls (calls ++ [call]) = (w.afterCalls calls).after call := by
  rw [afterCalls, List.foldl_append]
  rfl

/-- Whatever calls are made, a write that was started stays like this. -/
theorem lived_afterCalls (oid : Oid) (proposed prior : Value) (calls : List Call) :
    Lived oid proposed prior calls ((start oid proposed prior).afterCalls calls) := by
  induction calls using List.reverseRecOn with
  | nil => exact lived_start oid proposed prior
  | append_singleton calls call ih =>
    rw [afterCalls_append]
    exact ih.after call

/-- What every granted call keeps is kept by any calls. -/
theorem afterCalls_keeps {P : PendingWrite → Prop}
    (hkeeps : ∀ {w w' : PendingWrite} {call : Call},
      w.Becomes call w' → w.Consistent → P w → P w')
    (hw : w.Consistent) (hP : P w) (later : List Call) : P (w.afterCalls later) := by
  induction later generalizing w with
  | nil => exact hP
  | cons call later ih =>
    rcases w.after_cases call with hbecomes | hkept
    · exact ih (hbecomes.consistent hw) (hkeeps hbecomes hw hP)
    · exact ih (hkept.symm ▸ hw) (hkept.symm ▸ hP)

/-- The phases that calls bring a write to lie in ascending order behind its own. -/
theorem pairwise_entered (w : PendingWrite) (calls : List Call) :
    (w.phase :: w.entered calls).Pairwise fun p q => p.rank < q.rank := by
  induction calls generalizing w with
  | nil => simp [entered]
  | cons call calls ih =>
    have hrest := ih (w.after call)
    rw [entered]
    split
    · next hphase => rwa [hphase] at hrest
    · next hphase =>
      have hlt : w.phase.rank < (w.after call).phase.rank := by
        rcases w.after_cases call with hbecomes | hkept
        · exact hbecomes.phase_eq_or_lt.resolve_left hphase
        · exact absurd (congrArg phase hkept) hphase
      refine List.pairwise_cons.mpr ⟨?_, hrest⟩
      intro q hq
      rcases List.mem_cons.mp hq with rfl | hq
      · exact hlt
      · exact Nat.lt_trans hlt ((List.pairwise_cons.mp hrest).1 q hq)

/-! ## The life of a write -/

/-- What holds of a write that was started after any calls to it. -/
structure OrderlyLife (oid : Oid) (proposed prior : Value) (calls : List Call)
    (w : PendingWrite) : Prop where
  /-- What the write was started with never changes. -/
  same : w.oid = oid ∧ w.proposed = proposed ∧ w.prior = prior
  /-- A call that faults leaves the whole write as it was. -/
  faulted : ∀ call f w', w.perform call = .error f w' → w' = w
  /-- A call that is granted leads forward to its target. Only a call to end the write can be
  granted where the write has ended, and it changes nothing there. -/
  granted : ∀ call target w', call.target? = some target → w.perform call = .ok () w' →
    w.phase.rank < target.rank ∧ w'.phase = target ∨
      call = .finish ∧ w.phase = .cleaned ∧ w' = w
  /-- A call without a target leaves the phase. -/
  unmoved : ∀ call, call.target? = none → (w.after call).phase = w.phase
  /-- The phases that the write came to lie in ascending order. -/
  ascending : (.created :: (start oid proposed prior).entered calls).Pairwise
    fun p q => p.rank < q.rank
  /-- No phase is entered twice. -/
  distinct : (.created :: (start oid proposed prior).entered calls).Nodup
  /-- The phase changes at most six times. -/
  few : ((start oid proposed prior).entered calls).length ≤ 6
  /-- A commit is granted only where there is nothing to report yet. -/
  reportedOnce : ∀ stored reported w', w.perform (.commit stored reported) = .ok () w' →
    w.reported = none ∧ w'.reported = some reported
  /-- What there is to report never changes. -/
  reportedKept : ∀ v later, w.reported = some v → (w.afterCalls later).reported = some v
  /-- A refusal is granted only where there is no reason for one yet. -/
  refusedOnce : ∀ e w', w.perform (.refuse e) = .ok () w' →
    w.refusal = none ∧ w'.refusal = some e
  /-- The reason for a refusal never changes. -/
  refusalKept : ∀ e later, w.refusal = some e → (w.afterCalls later).refusal = some e
  /-- A stored value is there only between the commit and the end, or where a call moved
  the write to the last phase instead of ending it. -/
  stored : w.stored = none ∨ w.phase ∈ [.committed, .undoApplied, .failed] ∨
    w.phase = .cleaned ∧ .moveTo .cleaned ∈ calls
  /-- In the last phase no call with a target changes anything. -/
  ended : w.phase = .cleaned → ∀ call target, call.target? = some target → w.after call = w

/-- Every write that is started lives in order, whatever calls are made to it. -/
theorem orderlyLife_afterCalls (oid : Oid) (proposed prior : Value) (calls : List Call) :
    OrderlyLife oid proposed prior calls ((start oid proposed prior).afterCalls calls) := by
  have hlived := lived_afterCalls oid proposed prior calls
  have hascending := pairwise_entered (start oid proposed prior) calls
  generalize (start oid proposed prior).afterCalls calls = w at hlived
  have hgranted {call : Call} {w' : PendingWrite} (hperform : w.perform call = .ok () w') :
      w.Becomes call w' := by
    rcases w.perform_cases call with ⟨w'', hbecomes, hok⟩ | ⟨f, herror⟩
    · rw [hok] at hperform
      cases hperform
      exact hbecomes
    · rw [herror] at hperform
      cases hperform
  refine
    { same := hlived.same
      faulted := fun call f w' hperform => ?faulted
      granted := fun call target w' htarget hperform => (hgranted hperform).forward htarget
      unmoved := fun call htarget => ?unmoved
      ascending := hascending
      distinct := hascending.imp fun hlt heq => by simp [heq] at hlt
      few := Nat.le_of_succ_le_succ (Phase.length_le_of_pairwise hascending)
      reportedOnce := fun stored reported w' hperform => ?reportedOnce
      reportedKept := fun v later hreported => ?reportedKept
      refusedOnce := fun e w' hperform => ?refusedOnce
      refusalKept := fun e later hrefusal => ?refusalKept
      stored := hlived.carriesStored
      ended := fun hphase call target htarget => ?ended }
  case faulted =>
    rcases w.perform_cases call with ⟨w'', -, hok⟩ | ⟨f', herror⟩
    · rw [hok] at hperform
      cases hperform
    · rw [herror] at hperform
      cases hperform
      rfl
  case unmoved =>
    rcases w.after_cases call with hbecomes | hkept
    · exact hbecomes.phase_eq htarget
    · rw [hkept]
  case reportedOnce =>
    cases hgranted hperform with
    | committed hnext => exact ⟨hlived.consistent.reported_eq_none hnext, rfl⟩
  case reportedKept =>
    exact afterCalls_keeps (P := fun w => w.reported = some v)
      (fun hbecomes hw => hbecomes.reported_eq hw) hlived.consistent hreported later
  case refusedOnce =>
    cases hgranted hperform with
    | refused hnext => exact ⟨hlived.consistent.refusal_eq_none hnext, rfl⟩
  case refusalKept =>
    exact afterCalls_keeps (P := fun w => w.refusal = some e)
      (fun hbecomes hw => hbecomes.refusal_eq hw) hlived.consistent hrefusal later
  case ended =>
    rcases w.after_cases call with hbecomes | hkept
    · rcases hbecomes.forward htarget with ⟨hlt, -⟩ | ⟨-, -, hsame⟩
      · -- No phase lies behind the last one.
        have hlast : target.rank ≤ Phase.cleaned.rank := target.rank_le
        rw [hphase] at hlt
        omega
      · exact hsame
    · exact hkept

/-- A committed write is moved to the last phase, and then it is ended. -/
def movedToEnd : List Call :=
  [.moveTo .prepared, .moveTo .checked, .commit (.integer 1) (.integer 1), .moveTo .cleaned,
    .finish]

/-- Not every write with a stored value lies between its commit and its end: a write that
moves on to the last phase keeps its stored value, and ending it then changes nothing. -/
theorem not_forall_stored_phase :
    ¬ ∀ (oid : Oid) (proposed prior : Value) (calls : List Call),
      ((start oid proposed prior).afterCalls calls).stored ≠ none →
        ((start oid proposed prior).afterCalls calls).phase ∈
          [.committed, .undoApplied, .failed] := by
  intro h
  have hphase := h ⟨[1, 3]⟩ (.integer 1) (.integer 0) movedToEnd (by decide)
  revert hphase
  decide

end PendingWrite

end SnmpSet
