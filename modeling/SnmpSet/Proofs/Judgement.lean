import SnmpSet.ManagedObject

/-!
# Verdicts of a judgement

A judgement that goes through several questions accepts a proposal exactly when
each of them does. This takes the verdicts of an object apart.
-/

namespace SnmpSet

@[simp] theorem mapError_ok {ε ε' α : Type} (f : ε → ε') (a : α) :
    (Except.ok a).mapError f = .ok a := rfl

@[simp] theorem mapError_error {ε ε' α : Type} (f : ε → ε') (e : ε) :
    (Except.error e : Except ε α).mapError f = .error (f e) := rfl

/-- A mapped result is a success just if the result is. -/
@[simp] theorem mapError_eq_ok {ε ε' α : Type} {f : ε → ε'} {result : Except ε α} {a : α} :
    result.mapError f = .ok a ↔ result = .ok a := by
  cases result <;> simp

/-- A mapped result is an error just if the result is one that maps to it. -/
@[simp] theorem mapError_eq_error {ε ε' α : Type} {f : ε → ε'} {result : Except ε α} {e : ε'} :
    result.mapError f = .error e ↔ ∃ cause, result = .error cause ∧ f cause = e := by
  cases result <;> simp

namespace Judgement

variable {ε : Type}

@[simp] theorem verdict_direct (verdict : Except ε Unit) :
    (direct verdict).verdict = verdict := rfl

@[simp] theorem verdict_ofWrite (j : Judgement Refusal) :
    j.ofWrite.verdict = j.verdict.mapError .refused := rfl

/-- Two judgements in a row accept exactly if both do. -/
@[simp] theorem verdict_andThen_eq_ok {first : Judgement ε} {next : Unit → Judgement ε} :
    (first.andThen next).verdict = .ok () ↔
      first.verdict = .ok () ∧ (next ()).verdict = .ok () := by
  unfold andThen
  cases hfirst : first.verdict with
  | error e => simp [hfirst]
  | ok _ => simp

/-- Two judgements in a row refuse for the first reason that arises. -/
theorem verdict_andThen_eq_error {first : Judgement ε} {next : Unit → Judgement ε} {e : ε} :
    (first.andThen next).verdict = .error e ↔
      first.verdict = .error e ∨ first.verdict = .ok () ∧ (next ()).verdict = .error e := by
  unfold andThen
  cases hfirst : first.verdict with
  | error e' => simp [hfirst]
  | ok _ => simp

end Judgement

/-- A verdict that does not accept gives a reason. -/
theorem exists_error_of_ne_ok {ε : Type} {verdict : Except ε Unit} (hne : verdict ≠ .ok ()) :
    ∃ e, verdict = .error e := by
  cases verdict with
  | error e => exact ⟨e, rfl⟩
  | ok _ => exact absurd rfl hne

namespace ObjectBody

variable {b : ObjectBody} {proposed : Value} {requester : Requester}

/-- A proposal is prepared exactly if the object can be written, the requester
may write it, the base types agree, and the rules of the first stage and the
kind have no objection. -/
theorem verdict_prepare_eq_ok :
    (b.prepare proposed requester).verdict = .ok () ↔
      b.kind.writable = .ok () ∧ b.kind.vet requester = .ok () ∧
        proposed.baseType = b.value.baseType ∧
        (b.rules.judge .prepare proposed b.value).verdict = .ok () ∧
        b.kind.prepare b.value proposed requester = .ok () := by
  simp [prepare, screen, and_assoc]

/-- A proposal is refused at prepare before the kind is asked, or by the kind. -/
theorem verdict_prepare_eq_refused {e : Refusal} :
    (b.prepare proposed requester).verdict = .error (.refused e) ↔
      (b.screen proposed requester).verdict = .error e ∨
        (b.screen proposed requester).verdict = .ok () ∧
          b.kind.prepare b.value proposed requester = .error (.refused e) := by
  simp [prepare, Judgement.verdict_andThen_eq_error]

/-- It is the kind alone that halts the agent at prepare. -/
theorem verdict_prepare_eq_halted :
    (b.prepare proposed requester).verdict = .error .halted ↔
      (b.screen proposed requester).verdict = .ok () ∧
        b.kind.prepare b.value proposed requester = .error .halted := by
  simp [prepare, Judgement.verdict_andThen_eq_error]

/-- A proposal is checked exactly if the rules of the second stage and the kind
have no objection. -/
theorem verdict_check_eq_ok :
    (b.check proposed).verdict = .ok () ↔
      (b.rules.judge .check proposed b.value).verdict = .ok () ∧
        b.kind.check proposed = .ok () := by
  simp [check]

end ObjectBody

end SnmpSet
