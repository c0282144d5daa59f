import SnmpSet.Proofs.Rules
import SnmpSet.Proofs.Session.Writes

/-!
# Rules hold throughout a session

Rules are asked at two stages, before the batch stores anything, and a batch that
is undone asks no rule at all. Still a plain object only ever holds values that
satisfy its rules: what a batch stores for good in a plain object has passed both
stages, and what it puts back has been there before.
-/

namespace SnmpSet

instance (k : Kind) : Decidable (k = .plain) :=
  match k with
  | .plain => .isTrue rfl
  | .testAndIncr | .timeStamp _ | .keyChange _ | .ownKeyChange _ => .isFalse (by simp)

/-- An object that is plain holds a value that satisfies all of its rules. -/
def ObjectBody.ObeysRules (b : ObjectBody) : Prop :=
  b.kind = .plain → ∀ rule ∈ b.rules.rules, b.value.Satisfies rule

instance (b : ObjectBody) : Decidable b.ObeysRules :=
  inferInstanceAs (Decidable (_ → ∀ rule ∈ b.rules.rules, b.value.Satisfies rule))

/-- Each plain object of the store holds a value that satisfies all of its rules. -/
def Store.ObeysRules (s : Store) : Prop := ∀ o ∈ s.objects, o.body.ObeysRules

instance (s : Store) : Decidable s.ObeysRules :=
  inferInstanceAs (Decidable (∀ o ∈ s.objects, o.body.ObeysRules))

/-- A value that both stages of an object's rules accept satisfies these rules. -/
theorem RuleList.satisfies_of_verdicts {l : RuleList} {v previous : Value}
    (hprepared : (l.judge .prepare v previous).verdict = .ok ())
    (hchecked : (l.judge .check v previous).verdict = .ok ()) :
    ∀ rule ∈ l.rules, v.Satisfies rule := by
  intro rule hrule
  have haccepted := verdicts_judge_eq_ok.mp ⟨hprepared, hchecked⟩ rule hrule
  cases hcustom : rule.isCustom with
  | false => exact (Rule.refusal?_eq_none_iff hcustom).mp haccepted
  | true =>
    cases rule with
    | custom stage refusal => trivial
    | length _ | displayString | integerRange _ => cases hcustom

/-- What is written to a plain object satisfies its rules. -/
theorem Exchange.Writes.obeysRules {x : Exchange} {oid : Oid} {requester : Requester}
    {body : ObjectBody} {proposed : Value} {c : Committed}
    (hwrites : x.Writes oid requester body proposed c) :
    { body with value := c.stored }.ObeysRules := by
  intro hplain
  obtain ⟨-, -, -, hprepared, -⟩ := ObjectBody.verdict_prepare_eq_ok.mp hwrites.prepared
  obtain ⟨hchecked, -⟩ := ObjectBody.verdict_check_eq_ok.mp hwrites.checked
  have hcommitted := hwrites.committed
  rw [show body.kind = .plain from hplain] at hcommitted
  obtain rfl : ⟨proposed, proposed⟩ = c := Except.ok.inj hcommitted
  exact RuleList.satisfies_of_verdicts hprepared hchecked

namespace Agent

variable {a : Agent}

/-- One request keeps the values of plain objects within their rules. -/
theorem obeysRules_serve (hobeys : a.store.ObeysRules) (request : Request) :
    (a.serve request).after.store.ObeysRules := by
  intro o ho
  have hfound := Store.object?_of_mem_objects ho
  rcases writes_or_keeps a request o.oid with
    ⟨-, requester, body, proposed, c, hwrites⟩ | ⟨-, hkept⟩
  · have hbody : { body with value := c.stored } = o.body :=
      congrArg ManagedObject.body (Option.some.inj (hwrites.stored.symm.trans hfound))
    rw [← hbody]
    exact hwrites.obeysRules
  · exact hobeys o (Store.mem_objects_of_object? (hkept.symm.trans hfound))

/-- A session keeps the values of plain objects within their rules, whatever comes of
its requests. It keeps the objects, their kinds and their rules. -/
theorem obeysRules_afterAll (hobeys : a.store.ObeysRules) (requests : List Request) :
    (a.afterAll requests).store.ObeysRules ∧
      ∀ oid, (a.afterAll requests).store.frame? oid = a.store.frame? oid := by
  constructor
  · induction requests generalizing a with
    | nil => exact hobeys
    | cons request requests ih => exact ih (obeysRules_serve hobeys request)
  · obtain ⟨store, hafter, hframes⟩ := exists_store_afterAll a requests
    rw [hafter]
    exact hframes

/-- An agent with a short display string, a bounded integer and a key whose protocol
never derives a key of the right length. -/
def withRules : Agent :=
  .ofStore <| Store.empty
    |>.put (((ManagedObject.plain ⟨[1, 1]⟩ (.octets [65])).withRule (.length ⟨1, 3⟩)).withRule
      .displayString)
    |>.put ((ManagedObject.plain ⟨[1, 2]⟩ (.integer 0)).withRule (.integerRange ⟨-5, 5⟩))
    |>.put (.keyChange ⟨[1, 3]⟩ (.failing 1) .empty [9])

/-- The first request is accepted, the second is refused for the length of the string
and the third for the integer, and the last is undone because the key's commit fails. -/
def ruledRequests : List Request :=
  [.set none [⟨⟨[1, 1]⟩, .octets [66, 67]⟩, ⟨⟨[1, 2]⟩, .integer 5⟩],
    .set none [⟨⟨[1, 2]⟩, .integer 1⟩, ⟨⟨[1, 1]⟩, .octets [65, 65, 65, 65]⟩],
    .set none [⟨⟨[1, 1]⟩, .octets [68]⟩, ⟨⟨[1, 2]⟩, .integer 6⟩],
    .set none [⟨⟨[1, 1]⟩, .octets [69]⟩, ⟨⟨[1, 3]⟩, .octets [3, 4]⟩]]

/-- The values that the first request has stored are there in the end and satisfy
the rules. -/
theorem ruledRequests_obey :
    withRules.store.ObeysRules ∧
    (withRules.afterAll ruledRequests).store.ObeysRules ∧
    (withRules.afterAll ruledRequests).store.value? ⟨[1, 1]⟩ = some (.octets [66, 67]) ∧
    (withRules.afterAll ruledRequests).store.value? ⟨[1, 2]⟩ = some (.integer 5) := by
  have hobeys : withRules.store.ObeysRules := by decide
  exact ⟨hobeys, (obeysRules_afterAll hobeys ruledRequests).1, rfl, rfl⟩

end Agent

end SnmpSet
