import SnmpSet.Rule

/-!
# What the rules of an object say

The rules of a stage speak with the voice of the first one that refuses. The
rules that come with the agent refuse lengths and values only; what any other
refusal is about, the application has said. Each of the rules that come with the
agent says something of a value by itself, and it lets pass just the values of
which that is true.
-/

namespace SnmpSet

/-- A refusal that is reported as failed at commit says so itself. -/
theorem Refusal.exists_of_status_commitFailed {e : Refusal} (hstatus : e.status = .commitFailed) :
    ∃ reason, e = .commitFailed reason := by
  cases e with
  | commitFailed reason => exact ⟨reason, rfl⟩
  | _ => simp [status] at hstatus

/-- Only a rule of the application's own refuses a value as failed at commit. -/
theorem Rule.isCustom_of_commitFailed {rule : Rule} {proposed previous : Value} {reason : String}
    (hrefused : rule.refusal? proposed previous = some (.commitFailed reason)) :
    rule.isCustom = true := by
  cases rule with
  | custom stage refusal => rfl
  | length range =>
    cases proposed with
    | octets bytes =>
      by_cases houtside : bytes.length < range.min ∨ range.max < bytes.length
      · simp [refusal?, LengthBounds.check, houtside] at hrefused
      · simp [refusal?, LengthBounds.check, houtside] at hrefused
    | integer _ | timeTicks _ | objectId _ => simp [refusal?] at hrefused
  | displayString =>
    cases proposed with
    | octets bytes => simp [refusal?] at hrefused
    | integer _ | timeTicks _ | objectId _ => simp [refusal?] at hrefused
  | integerRange range =>
    cases proposed with
    | integer n => simp [refusal?] at hrefused
    | timeTicks _ | octets _ | objectId _ => simp [refusal?] at hrefused

/-! Octets and integers have finitely many values, so a statement about all members could
also be decided by a search through all of these. It is decided by its members. -/

instance (priority := high) decidableForallMemOption {α : Type} {q : α → Prop} [DecidablePred q]
    (o : Option α) : Decidable (∀ x ∈ o, q x) := o.decidableForallMem

instance (priority := high) decidableForallMemList {α : Type} {q : α → Prop} [DecidablePred q]
    (xs : List α) : Decidable (∀ x ∈ xs, q x) := List.decidableBAll q xs

/-- What a rule says of a value by itself. A rule of the application's own is about
a change, so it says nothing of the value that an object happens to hold. -/
def Value.Satisfies (v : Value) : Rule → Prop
  | .length range => ∀ bytes ∈ v.octets?, range.min ≤ bytes.length ∧ bytes.length ≤ range.max
  | .displayString => ∀ bytes ∈ v.octets?, ∀ b ∈ bytes, isDisplayOctet b = true
  | .integerRange range => ∀ n ∈ v.integer?, range.min ≤ n ∧ n ≤ range.max
  | .custom _ _ => True

instance (v : Value) (rule : Rule) : Decidable (v.Satisfies rule) :=
  match rule with
  | .length range => inferInstanceAs (Decidable (∀ bytes ∈ v.octets?,
      range.min ≤ bytes.length ∧ bytes.length ≤ range.max))
  | .displayString => inferInstanceAs (Decidable (∀ bytes ∈ v.octets?, ∀ b ∈ bytes,
      isDisplayOctet b = true))
  | .integerRange range => inferInstanceAs (Decidable (∀ n ∈ v.integer?,
      range.min ≤ n ∧ n ≤ range.max))
  | .custom _ _ => .isTrue trivial

/-- A rule that comes with the agent lets just those values pass that satisfy it,
whatever they replace. -/
theorem Rule.refusal?_eq_none_iff {rule : Rule} (hown : rule.isCustom = false)
    {v previous : Value} : rule.refusal? v previous = none ↔ v.Satisfies rule := by
  cases rule with
  | custom stage refusal => simp [isCustom] at hown
  | length range =>
    cases v with
    | octets bytes =>
      by_cases houtside : bytes.length < range.min ∨ range.max < bytes.length
      · simp [refusal?, LengthBounds.check, houtside, Value.Satisfies, Value.octets?]
        omega
      · simp [refusal?, LengthBounds.check, houtside, Value.Satisfies, Value.octets?]
        omega
    | integer _ | timeTicks _ | objectId _ => simp [refusal?, Value.Satisfies, Value.octets?]
  | displayString =>
    cases v with
    | octets bytes => simp [refusal?, Value.Satisfies, Value.octets?]
    | integer _ | timeTicks _ | objectId _ => simp [refusal?, Value.Satisfies, Value.octets?]
  | integerRange range =>
    cases v with
    | integer n => simp [refusal?, Value.Satisfies, Value.integer?]
    | octets _ | timeTicks _ | objectId _ => simp [refusal?, Value.Satisfies, Value.integer?]

namespace RuleList

/-- Rules that are asked one by one give the verdict of the first that refuses. -/
theorem verdict_ask (proposed previous : Value) (rules : List Rule) :
    (ask proposed previous rules).verdict =
      match rules.findSome? fun rule => rule.refusal? proposed previous with
      | some e => .error e
      | none => .ok () := by
  induction rules with
  | nil => rfl
  | cons rule rules ih =>
    cases hrefusal : rule.refusal? proposed previous with
    | some e => simp [ask, hrefusal]
    | none => simpa [ask, hrefusal] using ih

/-- A stage refuses only if one of its rules does, and for the same reason. -/
theorem exists_rule_of_judge {l : RuleList} {stage : Stage} {proposed previous : Value}
    {e : Refusal} (hrefused : (l.judge stage proposed previous).verdict = .error e) :
    ∃ rule ∈ l.rules, rule.stage = stage ∧ rule.refusal? proposed previous = some e := by
  rw [judge, verdict_ask] at hrefused
  split at hrefused
  · next e' hfirst =>
    obtain rfl := Except.error.inj hrefused
    obtain ⟨rule, hrule, hrefusal⟩ := List.exists_of_findSome?_eq_some hfirst
    obtain ⟨hmem, hstage⟩ := List.mem_filter.mp hrule
    exact ⟨rule, hmem, by simpa using hstage, hrefusal⟩
  · simp at hrefused

/-- A stage accepts exactly if none of its rules refuses. -/
theorem verdict_judge_eq_ok {l : RuleList} {stage : Stage} {proposed previous : Value} :
    (l.judge stage proposed previous).verdict = .ok () ↔
      ∀ rule ∈ l.rules, rule.stage = stage → rule.refusal? proposed previous = none := by
  rw [judge, verdict_ask]
  split
  · next e hfirst =>
    obtain ⟨rule, hrule, hrefusal⟩ := List.exists_of_findSome?_eq_some hfirst
    obtain ⟨hmem, hstage⟩ := List.mem_filter.mp hrule
    simp only [reduceCtorEq, false_iff]
    intro hall
    simp [hall rule hmem (by simpa using hstage)] at hrefusal
  · next hnone =>
    simpa [List.findSome?_eq_none_iff] using hnone

/-- Both stages accept exactly if no rule refuses. -/
theorem verdicts_judge_eq_ok {l : RuleList} {proposed previous : Value} :
    (l.judge .prepare proposed previous).verdict = .ok () ∧
        (l.judge .check proposed previous).verdict = .ok () ↔
      ∀ rule ∈ l.rules, rule.refusal? proposed previous = none := by
  rw [verdict_judge_eq_ok, verdict_judge_eq_ok]
  constructor
  · rintro ⟨hprepare, hcheck⟩ rule hrule
    cases hstage : rule.stage with
    | prepare => exact hprepare rule hrule hstage
    | check => exact hcheck rule hrule hstage
  · intro hall
    exact ⟨fun rule hrule _ => hall rule hrule, fun rule hrule _ => hall rule hrule⟩

/-- If a stage refuses a value as failed at commit, a rule of the application's own
has said so. -/
theorem exists_custom_of_judge {l : RuleList} {stage : Stage} {proposed previous : Value}
    {e : Refusal} (hrefused : (l.judge stage proposed previous).verdict = .error e)
    (hstatus : e.status = .commitFailed) :
    ∃ rule ∈ l.rules, rule.isCustom ∧ rule.refusal? proposed previous = some e := by
  obtain ⟨reason, rfl⟩ := Refusal.exists_of_status_commitFailed hstatus
  obtain ⟨rule, hrule, -, hrefusal⟩ := exists_rule_of_judge hrefused
  exact ⟨rule, hrule, Rule.isCustom_of_commitFailed hrefusal, hrefusal⟩

end RuleList

end SnmpSet
