import SnmpSet.Proofs.Completeness
import SnmpSet.Proofs.Session.Counter
import SnmpSet.Proofs.Session.Rules

/-!
# Counters that outgrow their rules

Rules judge what is proposed, and what a counter is proposed is the value that it holds. What
it stores is the next number, which no rule has seen. So a counter within its rules steps out
of them at the upper end of a range, or at the largest integer if a range does not reach down
to zero. From then on it refuses every proposal: it asks for its own value, and the rules
refuse that.
-/

namespace SnmpSet

/-- A value satisfies all rules of a list. -/
def RuleList.Admits (l : RuleList) (v : Value) : Prop := ∀ rule ∈ l.rules, v.Satisfies rule

instance (l : RuleList) (v : Value) : Decidable (l.Admits v) :=
  inferInstanceAs (Decidable (∀ rule ∈ l.rules, v.Satisfies rule))

/-- A rule leaves a counter room for the number after a given one. -/
def Rule.LeavesRoom (n : Int32) : Rule → Prop
  | .integerRange range => n < range.max ∨ n = Int32.maxValue ∧ range.min ≤ 0
  | .length _ | .displayString | .custom _ _ => True

/-- An integer satisfies a range rule if it lies in the range. -/
theorem Value.satisfies_integerRange {n : Int32} {range : IntegerBounds} :
    (integer n).Satisfies (.integerRange range) ↔
      range.min.toInt ≤ n.toInt ∧ n.toInt ≤ range.max.toInt := by
  simp [Satisfies, integer?, Int32.le_iff_toInt_le]

/-- A natural number that satisfies a rule is followed by one that does just if the rule leaves
room for it. -/
theorem TestAndIncr.satisfies_successor_iff {n : Int32} (hnatural : 0 ≤ n) {rule : Rule}
    (hsatisfies : (Value.integer n).Satisfies rule) :
    (Value.integer (successor n)).Satisfies rule ↔ rule.LeavesRoom n := by
  cases rule with
  | length _ | displayString => simp [Value.Satisfies, Rule.LeavesRoom, Value.octets?]
  | custom _ _ => simp [Value.Satisfies, Rule.LeavesRoom]
  | integerRange range =>
    obtain ⟨hmin, hmax⟩ := Value.satisfies_integerRange.mp hsatisfies
    have hlow : 0 ≤ n.toInt := Int32.le_iff_toInt_le.mp hnatural
    have hhigh : n.toInt ≤ 2 ^ 31 - 1 := n.toInt_le
    have hlimit : range.max.toInt ≤ 2 ^ 31 - 1 := range.max.toInt_le
    have hlast : n = Int32.maxValue ↔ n.toInt = 2 ^ 31 - 1 := Int32.toInt_inj.symm
    have hzero : range.min ≤ 0 ↔ range.min.toInt ≤ 0 := Int32.le_iff_toInt_le
    rw [Value.satisfies_integerRange, toInt_successor hlow, Rule.LeavesRoom,
      Int32.lt_iff_toInt_lt, hlast, hzero]
    omega

/-- What gets past a counter's prepare and check is the counter's own value, a natural number
that all of its rules admit. -/
theorem ObjectBody.counter_of_prepare_check {b : ObjectBody} (hkind : b.kind = .testAndIncr)
    {proposed : Value} {requester : Requester}
    (hprepared : (b.prepare proposed requester).verdict = .ok ())
    (hchecked : (b.check proposed).verdict = .ok ()) :
    ∃ n : Int32, 0 ≤ n ∧ b.value = .integer n ∧ proposed = .integer n ∧
      b.rules.Admits (.integer n) := by
  obtain ⟨-, -, -, hruled, hprepares⟩ := verdict_prepare_eq_ok.mp hprepared
  obtain ⟨hruled', hchecks⟩ := verdict_check_eq_ok.mp hchecked
  have hadmits : b.rules.Admits proposed := RuleList.satisfies_of_verdicts hruled hruled'
  rw [hkind] at hprepares hchecks
  have hsame : b.value = proposed := by
    simpa [Kind.prepare, Kind.vet, TestAndIncr.prepare] using hprepares
  obtain ⟨n, rfl⟩ := TestAndIncr.exists_integer_of_check hchecks
  have hnatural : 0 ≤ n := by simpa [Kind.check, TestAndIncr.check] using hchecks
  exact ⟨n, hnatural, hsame, rfl, hadmits⟩

/-- A counter whose value its own rules do not admit is stuck. -/
theorem ObjectBody.stuck_of_not_admits {b : ObjectBody} (hkind : b.kind = .testAndIncr)
    (houtside : ¬b.rules.Admits b.value) : b.Stuck := by
  intro proposed requester hprepared hchecked
  obtain ⟨n, -, hvalue, -, hadmits⟩ := counter_of_prepare_check hkind hprepared hchecked
  exact houtside (hvalue ▸ hadmits)

namespace Agent

variable {a : Agent} {oid : Oid} {body : ObjectBody}

/-- An accepted write to a counter finds it at a natural number that its rules admit, and leaves
it at the next one. The rules admit that too just if each of them leaves room for it. If not,
the counter accepts no proposal any more, and no session brings it back within its rules. -/
theorem counter_obeys_rules_iff (hfound : a.store.object? oid = some ⟨oid, body⟩)
    (hkind : body.kind = .testAndIncr) {request : Request}
    (hwrite : (a.serve request).isWriteTo oid = true) :
    ∃ n : Int32, 0 ≤ n ∧ body.value = .integer n ∧ body.rules.Admits (.integer n) ∧
      (a.serve request).after.store.object? oid =
        some ⟨oid, { body with value := .integer (TestAndIncr.successor n) }⟩ ∧
      (body.rules.Admits (.integer (TestAndIncr.successor n)) ↔
        ∀ rule ∈ body.rules.rules, rule.LeavesRoom n) ∧
      (¬body.rules.Admits (.integer (TestAndIncr.successor n)) →
        { body with value := .integer (TestAndIncr.successor n) }.Stuck ∧
        ∀ requests, ((a.serve request).after.afterAll requests).store.value? oid =
          some (.integer (TestAndIncr.successor n))) := by
  obtain ⟨requester, body', proposed, c, hwrites⟩ := writes_of_isWriteTo hwrite
  obtain rfl : body = body' := body_of_writes hfound hwrites
  obtain ⟨n, hnatural, hvalue, rfl, hadmits⟩ :=
    ObjectBody.counter_of_prepare_check hkind hwrites.prepared hwrites.checked
  have hcommitted := hwrites.committed
  rw [hkind, hvalue] at hcommitted
  obtain rfl : ⟨.integer (TestAndIncr.successor n), .integer n⟩ = c := Except.ok.inj hcommitted
  have hafter := hwrites.stored
  refine ⟨n, hnatural, hvalue, hadmits, hafter, ?room, fun houtside => ?stuck⟩
  case room =>
    exact forall₂_congr fun rule hrule =>
      TestAndIncr.satisfies_successor_iff hnatural (hadmits rule hrule)
  case stuck =>
    have hstuck : { body with value := .integer (TestAndIncr.successor n) }.Stuck :=
      ObjectBody.stuck_of_not_admits hkind houtside
    refine ⟨hstuck, fun requests => ?_⟩
    exact Store.value?_of_object? (object?_afterAll_of_stuck hafter hstuck requests)

/-- An agent with a counter at the upper end of its range. -/
def withFullCounter : Agent :=
  .ofStore <| Store.empty
    |>.put ((ManagedObject.testAndIncr ⟨[1, 1]⟩ 5).withRule (.integerRange ⟨0, 5⟩))

/-- One write brings the counter out of its range, and whatever is asked of the agent then
leaves it there. -/
theorem withFullCounter_outgrows_range :
    (withFullCounter.serve (.set none [⟨⟨[1, 1]⟩, .integer 5⟩])).isWriteTo ⟨[1, 1]⟩ = true ∧
    ∀ requests, ((withFullCounter.serve (.set none [⟨⟨[1, 1]⟩, .integer 5⟩])).after.afterAll
      requests).store.value? ⟨[1, 1]⟩ = some (.integer 6) := by
  have hwrite : (withFullCounter.serve (.set none [⟨⟨[1, 1]⟩, .integer 5⟩])).isWriteTo
      ⟨[1, 1]⟩ = true := by decide
  obtain ⟨n, -, hvalue, -, -, -, hstuck⟩ :=
    counter_obeys_rules_iff (a := withFullCounter) rfl rfl hwrite
  obtain rfl : 5 = n := Value.integer.inj hvalue
  obtain ⟨-, hsession⟩ := hstuck (by decide)
  exact ⟨hwrite, hsession⟩

/-- Not every counter that is within its ranges is so after an accepted write. -/
theorem not_forall_counter_obeys :
    ¬∀ (a : Agent) (oid : Oid) (body : ObjectBody) (request : Request),
      a.store.object? oid = some ⟨oid, body⟩ → body.kind = .testAndIncr →
      (∀ rule ∈ body.rules.rules, ∃ range, rule = .integerRange range) →
      body.rules.Admits body.value → (a.serve request).isWriteTo oid = true →
      ∃ body', (a.serve request).after.store.object? oid = some ⟨oid, body'⟩ ∧
        body'.rules.Admits body'.value := by
  intro hclaim
  have hranged : ∀ rule ∈ [Rule.integerRange ⟨0, 5⟩], ∃ range, rule = .integerRange range :=
    List.forall_mem_singleton.mpr ⟨_, rfl⟩
  obtain ⟨body', hfound, hadmits⟩ := hclaim withFullCounter ⟨[1, 1]⟩ _
    (.set none [⟨⟨[1, 1]⟩, .integer 5⟩]) rfl rfl hranged (by decide) (by decide)
  obtain rfl := congrArg ManagedObject.body (Option.some.inj hfound)
  revert hadmits
  decide

end Agent

end SnmpSet
