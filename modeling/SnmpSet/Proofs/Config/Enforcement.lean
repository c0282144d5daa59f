import SnmpSet.Proofs.Config.InitialValues
import SnmpSet.Proofs.Session.Proposals

/-!
# The bounds that configured objects enforce

The settings of a plain object bound the values that requests can give it. A bound is
about one base type and says nothing of values of another. A value that does not keep to
the settings is refused for its base type first, then for its length, then for its
content, and the object stays as it was.
-/

namespace SnmpSet

namespace Rule

variable {v previous : Value} {e : Refusal}

/-- A range of lengths refuses a value for its length. -/
theorem status_of_length {range : LengthBounds}
    (hrefused : (Rule.length range).refusal? v previous = some e) : e.status = .wrongLength := by
  cases v with
  | octets bytes =>
    by_cases houtside : bytes.length < range.min ∨ range.max < bytes.length
    · obtain rfl : .wrongLength bytes.length range.min range.max = e := by
        simpa [refusal?, LengthBounds.check, houtside] using hrefused
      rfl
    · simp [refusal?, LengthBounds.check, houtside] at hrefused
  | integer _ | timeTicks _ | objectId _ => simp [refusal?] at hrefused

/-- The rule of display strings refuses a value for its content. -/
theorem status_of_displayString (hrefused : Rule.displayString.refusal? v previous = some e) :
    e.status = .wrongValue := by
  cases v with
  | octets bytes =>
    obtain ⟨position, -, rfl⟩ := Option.map_eq_some_iff.mp hrefused
    rfl
  | integer _ | timeTicks _ | objectId _ => simp [refusal?] at hrefused

/-- A range of integers refuses a value for its content. -/
theorem status_of_integerRange {range : IntegerBounds}
    (hrefused : (Rule.integerRange range).refusal? v previous = some e) :
    e.status = .wrongValue := by
  cases v with
  | integer n =>
    simp only [refusal?] at hrefused
    split at hrefused
    · obtain rfl := Option.some.inj hrefused
      rfl
    · simp at hrefused
  | octets _ | timeTicks _ | objectId _ => simp [refusal?] at hrefused

end Rule

namespace PlainSettings

variable {p : PlainSettings} {first v previous : Value} {e : Refusal}

/-- The settings have nothing against the length of a value. Only strings have one, in
octets. If one end of the range is given, the other is that of display strings. -/
def AdmitsLength (p : PlainSettings) : Value → Prop
  | .octets bytes => p.minLength.isSome ∨ p.maxLength.isSome →
      p.minLength.getD 0 ≤ bytes.length ∧ bytes.length ≤ p.maxLength.getD 255
  | _ => True

/-- The settings have nothing against the content of a value: the octets of a string or
the number that an integer is. -/
def AdmitsContent (p : PlainSettings) : Value → Prop
  | .octets bytes => p.displayString = true →
      ∀ b ∈ bytes, 0x20 ≤ b ∧ b ≤ 0x7e ∨ b = 0x0d ∨ b = 0x0a ∨ b = 0x09
  | .integer n => p.min.getD Int32.minValue ≤ n ∧ n ≤ p.max.getD Int32.maxValue
  | _ => True

instance (p : PlainSettings) (v : Value) : Decidable (p.AdmitsLength v) :=
  match v with
  | .octets _ => inferInstanceAs (Decidable (_ ∨ _ → _ ∧ _))
  | .integer _ | .timeTicks _ | .objectId _ => .isTrue trivial

instance (p : PlainSettings) (v : Value) : Decidable (p.AdmitsContent v) :=
  match v with
  | .octets bytes => inferInstanceAs (Decidable (_ → ∀ b ∈ bytes, _ ∨ _))
  | .integer _ => inferInstanceAs (Decidable (_ ∧ _))
  | .timeTicks _ | .objectId _ => .isTrue trivial

/-- The status that a value is due at an object that started with another one. -/
def dueStatus (p : PlainSettings) (first v : Value) : ErrorStatus :=
  if v.baseType ≠ first.baseType then .wrongType
  else if ¬p.AdmitsLength v then .wrongLength
  else if ¬p.AdmitsContent v then .wrongValue
  else .noError

/-- A value is due success exactly if it has the base type of the first one and its
length and content are admitted. -/
theorem dueStatus_eq_noError_iff :
    p.dueStatus first v = .noError ↔
      v.baseType = first.baseType ∧ p.AdmitsLength v ∧ p.AdmitsContent v := by
  unfold dueStatus
  split
  · simp_all
  · split
    · simp_all
    · split <;> simp_all

/-- The range of lengths that the settings make is satisfied by the values whose length
they admit. -/
theorem satisfies_lengthRange_iff :
    (∀ range ∈ p.lengthRange?, v.Satisfies (.length range)) ↔ p.AdmitsLength v := by
  cases v with
  | octets bytes =>
    by_cases hnone : p.minLength = none ∧ p.maxLength = none
    · simp [lengthRange?, AdmitsLength, hnone]
    · have hgiven : p.minLength.isSome ∨ p.maxLength.isSome := by
        rw [Decidable.not_and_iff_or_not] at hnone
        simpa [Option.isSome_iff_ne_none] using hnone
      simp [lengthRange?, hnone, AdmitsLength, hgiven, Value.Satisfies, Value.octets?,
        LengthBounds.displayString]
  | integer _ | timeTicks _ | objectId _ => simp [AdmitsLength, Value.Satisfies, Value.octets?]

/-- The other rules that the settings make are satisfied by the values whose content they
admit. -/
theorem satisfies_content_iff :
    ((p.displayString = true → v.Satisfies .displayString) ∧
      ∀ range ∈ p.integerRange?, v.Satisfies (.integerRange range)) ↔ p.AdmitsContent v := by
  cases v with
  | octets bytes =>
    simp [AdmitsContent, Value.Satisfies, Value.octets?, Value.integer?, isDisplayOctet, or_assoc]
  | integer n =>
    have hrange : (∀ range ∈ p.integerRange?, range.min ≤ n ∧ n ≤ range.max) ↔
        p.AdmitsContent (.integer n) := by
      rw [integerRange?_iff]
      refine and_congr ?_ ?_
      · cases p.min with
        | none => simp [Int32.minValue_le]
        | some least => simp
      · cases p.max with
        | none => simp [Int32.le_maxValue]
        | some most => simp
    simpa [Value.Satisfies, Value.octets?, Value.integer?] using hrange
  | timeTicks _ | objectId _ => simp [AdmitsContent, Value.Satisfies, Value.octets?, Value.integer?]

/-- The rules of the first stage are the range of lengths and the rule of display strings. -/
theorem filter_prepare_rules :
    (p.rules.filter fun rule => rule.stage = .prepare) =
      (p.lengthRange?.map Rule.length).toList ++
        if p.displayString then [.displayString] else [] := by
  rw [rules, List.filter_append, List.filter_append]
  have hlength : ((p.lengthRange?.map Rule.length).toList.filter fun rule =>
      rule.stage = .prepare) = (p.lengthRange?.map Rule.length).toList :=
    List.filter_eq_self.mpr (by simp [Rule.stage])
  have hdisplay : ((if p.displayString then [Rule.displayString] else []).filter fun rule =>
      rule.stage = .prepare) = if p.displayString then [.displayString] else [] :=
    List.filter_eq_self.mpr (by simp [Rule.stage])
  have hrange : ((p.integerRange?.map Rule.integerRange).toList.filter fun rule =>
      rule.stage = .prepare) = [] := List.filter_eq_nil_iff.mpr (by simp [Rule.stage])
  rw [hlength, hdisplay, hrange, List.append_nil]

/-- What the rules refuse at prepare is refused for its length, if that is not admitted,
and otherwise for its content. -/
theorem status_of_judge_prepare
    (hrefused : ((⟨p.rules⟩ : RuleList).judge .prepare v previous).verdict = .error e) :
    e.status = if p.AdmitsLength v then .wrongValue else .wrongLength := by
  have hdisplay : ∀ rule ∈ (if p.displayString then [Rule.displayString] else []),
      rule = .displayString := by
    intro rule hrule
    split at hrule
    · simpa using hrule
    · simp at hrule
  rw [RuleList.judge, filter_prepare_rules, RuleList.verdict_ask, List.findSome?_append] at hrefused
  cases hfirst : (p.lengthRange?.map Rule.length).toList.findSome? fun rule =>
      rule.refusal? v previous with
  | some e' =>
    obtain ⟨rule, hrule, hrefusal⟩ := List.exists_of_findSome?_eq_some hfirst
    obtain ⟨range, hrange, rfl⟩ := Option.map_eq_some_iff.mp (Option.mem_toList.mp hrule)
    obtain rfl : e' = e := by simpa [hfirst] using hrefused
    have hlength : ¬p.AdmitsLength v := by
      intro hadmits
      have hsatisfies := satisfies_lengthRange_iff.mpr hadmits range hrange
      rw [(Rule.refusal?_eq_none_iff rfl).mpr hsatisfies] at hrefusal
      cases hrefusal
    rw [if_neg hlength, Rule.status_of_length hrefusal]
  | none =>
    have hlength : p.AdmitsLength v := by
      refine satisfies_lengthRange_iff.mp fun range hrange => ?_
      have hpasses := List.findSome?_eq_none_iff.mp hfirst (.length range) (by simpa using hrange)
      exact (Rule.refusal?_eq_none_iff rfl).mp hpasses
    rw [hfirst, Option.none_or] at hrefused
    split at hrefused
    · next e' hsecond =>
      obtain rfl := Except.error.inj hrefused
      obtain ⟨rule, hrule, hrefusal⟩ := List.exists_of_findSome?_eq_some hsecond
      obtain rfl := hdisplay rule hrule
      rw [if_pos hlength, Rule.status_of_displayString hrefusal]
    · simp at hrefused

/-- What the rules accept at prepare has a length that is admitted. -/
theorem admitsLength_of_judge_prepare
    (haccepted : ((⟨p.rules⟩ : RuleList).judge .prepare v previous).verdict = .ok ()) :
    p.AdmitsLength v := by
  refine satisfies_lengthRange_iff.mp fun range hrange => ?_
  have hrule : Rule.length range ∈ p.rules := by
    simp [rules, Option.mem_def.mp hrange]
  exact (Rule.refusal?_eq_none_iff rfl).mp
    (RuleList.verdict_judge_eq_ok.mp haccepted _ hrule rfl)

/-- What the rules refuse at check is refused for its content. -/
theorem status_of_judge_check
    (hrefused : ((⟨p.rules⟩ : RuleList).judge .check v previous).verdict = .error e) :
    e.status = .wrongValue := by
  obtain ⟨rule, hrule, hstage, hrefusal⟩ := RuleList.exists_rule_of_judge hrefused
  cases rule with
  | integerRange range => exact Rule.status_of_integerRange hrefusal
  | length _ | displayString => simp [Rule.stage] at hstage
  | custom _ _ =>
    have hcustom := isCustom_of_mem_rules hrule
    simp [Rule.isCustom] at hcustom

/-- A value satisfies all rules of the settings if its length and content are admitted. -/
theorem satisfies_rules_iff_admits :
    (∀ rule ∈ p.rules, v.Satisfies rule) ↔ p.AdmitsLength v ∧ p.AdmitsContent v := by
  rw [satisfies_rules_iff, satisfies_lengthRange_iff, satisfies_content_iff]

section Verdict

variable {b : ObjectBody} (hkind : b.kind = .plain) (hrules : b.rules = ⟨p.rules⟩)
include hkind hrules

/-- A plain object accepts a proposal that is due success, and only such a one. -/
theorem verdict_propose_eq_ok_iff :
    (b.propose v).verdict = .ok () ↔ p.dueStatus b.value v = .noError := by
  have hjudged : ((b.rules.judge .prepare v b.value).verdict = .ok () ∧
      (b.rules.judge .check v b.value).verdict = .ok ()) ↔
        p.AdmitsLength v ∧ p.AdmitsContent v := by
    rw [RuleList.verdicts_judge_eq_ok, ← satisfies_rules_iff_admits, hrules]
    exact forall₂_congr fun rule hrule => Rule.refusal?_eq_none_iff (isCustom_of_mem_rules hrule)
  rw [dueStatus_eq_noError_iff, ← hjudged, ObjectBody.propose, Judgement.verdict_andThen_eq_ok,
    ObjectBody.verdict_prepare_eq_ok, Judgement.verdict_ofWrite, mapError_eq_ok,
    ObjectBody.verdict_check_eq_ok]
  simp [hkind, Kind.writable, Kind.vet, Kind.prepare, Kind.check, and_assoc]

/-- A plain object refuses any other proposal with the status that it is due. -/
theorem status_of_propose (hrefused : (b.propose v).verdict = .error (.refused e)) :
    e.status = p.dueStatus b.value v := by
  have hdue : p.dueStatus b.value v ≠ .noError := by
    rw [Ne, ← verdict_propose_eq_ok_iff hkind hrules, hrefused]
    simp
  simp only [ObjectBody.propose, ObjectBody.verdict_prepare_eq_refused, ObjectBody.screen,
    ObjectBody.verdict_prepare_eq_ok, ObjectBody.check, hkind, Kind.writable, Kind.vet,
    Kind.prepare, Kind.check, Judgement.verdict_andThen_eq_error, Judgement.verdict_ofWrite,
    mapError_eq_error, WriteFailure.refused.injEq, exists_eq_right, Judgement.verdict_direct,
    reduceCtorEq, false_or, or_false, true_and, and_false, and_true, hrules] at hrefused
  by_cases htype : v.baseType = b.value.baseType
  · simp only [dueStatus, htype, ne_eq, not_true_eq_false, if_false] at hdue ⊢
    simp only [htype, if_true, reduceCtorEq, false_or, true_and] at hrefused
    rcases hrefused with hunprepared | ⟨hprepared, hunchecked⟩
    · rw [status_of_judge_prepare hunprepared]
      by_cases hlength : p.AdmitsLength v
      · by_cases hcontent : p.AdmitsContent v
        · simp [hlength, hcontent] at hdue
        · simp [hlength, hcontent]
      · simp [hlength]
    · have hlength := admitsLength_of_judge_prepare hprepared
      rw [status_of_judge_check hunchecked]
      by_cases hcontent : p.AdmitsContent v
      · simp [hlength, hcontent] at hdue
      · simp [hlength, hcontent]
  · obtain rfl : .wrongType b.value.baseType v.baseType = e := by simpa [htype] using hrefused
    simp [dueStatus, htype, Refusal.status]

end Verdict

end PlainSettings

namespace ObjectEntry

variable {c : ObjectEntry} {clock : Clock} {o : ManagedObject} {p : PlainSettings} {a : Agent}

/-- A plain object that has been built is written by a request of nobody in particular
exactly if the value has the base type of the configured one and the settings admit its
length and its content. Any other request with a single binding for it is refused, with
the status that comes first of base type, length and content, and changes nothing. -/
theorem set_enforces_bounds (hsettings : c.settings = .plain p) (hbuilt : c.object clock = .ok o)
    (hroom : 1 ≤ a.maxBindings) (hfound : a.store.object? c.oid = some o)
    (hallowed : a.policy.allows none c.oid = true) (v : Value) :
    ∃ first r, p.value? = some first ∧ (a.set none [⟨c.oid, v⟩]).answer = .response r ∧
      r.status = p.dueStatus first v ∧
      (r.status = .noError ↔
        v.baseType = first.baseType ∧ p.AdmitsLength v ∧ p.AdmitsContent v) ∧
      (r.status = .noError → (a.set none [⟨c.oid, v⟩]).agent.store.object? c.oid =
        some ⟨c.oid, { o.body with value := v }⟩) ∧
      (r.status ≠ .noError → r.errorIndex = 1 ∧ (a.set none [⟨c.oid, v⟩]).agent = a) := by
  obtain ⟨first, hfirst, rfl⟩ : ∃ first, p.value? = some first ∧
      o = ⟨c.oid, ⟨first, .plain, ⟨p.rules⟩, []⟩⟩ := by
    simp only [object, hsettings] at hbuilt
    exact PlainSettings.exists_value_of_object hbuilt
  refine ⟨first, ?_⟩
  cases hverdict : ((⟨first, .plain, ⟨p.rules⟩, []⟩ : ObjectBody).propose v).verdict with
  | error failure =>
    cases failure with
    | refused e =>
      have hdue : e.status = p.dueStatus first v :=
        PlainSettings.status_of_propose rfl rfl hverdict
      obtain ⟨h, hrefused⟩ := Agent.refusedAt_singleton_of_judged (b := ⟨c.oid, v⟩) hroom hfound
        hallowed hverdict
      refine ⟨_, hfirst, hrefused.answer_eq, hdue, ?_, ?_, fun _ => ⟨rfl, hrefused.agent_eq⟩⟩
      · rw [← PlainSettings.dueStatus_eq_noError_iff, ← hdue]
        rfl
      · intro haccepted
        exact absurd haccepted (Refusal.status_ne_noError e)
    | halted =>
      have hbounded : Kind.plain.KeyBounded := Kind.keyBounded_of_column?_eq_none rfl
      exact absurd hverdict (Agent.verdict_propose_ne_halted hbounded v)
  | ok _ =>
    have hdue : p.dueStatus first v = .noError :=
      (PlainSettings.verdict_propose_eq_ok_iff rfl rfl).mp hverdict
    obtain ⟨hprepared, hchecked⟩ := Judgement.verdict_andThen_eq_ok.mp hverdict
    rw [Judgement.verdict_ofWrite, mapError_eq_ok] at hchecked
    obtain ⟨hanswer, hagent⟩ := Agent.set_singleton (b := ⟨c.oid, v⟩) hroom hfound hallowed
      hprepared hchecked rfl
    refine ⟨_, hfirst, hanswer, hdue.symm, ?_, fun _ => ?_, fun hrefused => absurd rfl hrefused⟩
    · exact iff_of_true rfl (PlainSettings.dueStatus_eq_noError_iff.mp hdue)
    · rw [hagent]
      exact Store.object?_put_self a.store _

/-- The settings of a printable string of at most three octets. Its lower bound on integers
never comes to bear. -/
def shortString : PlainSettings where
  integer := none
  string := some "ab"
  minLength := none
  maxLength := some 3
  displayString := true
  min := some 1
  max := none

/-- A value that breaks both bounds is refused for its length, a shorter one with the same
octets for its content, and an integer for its base type whatever its size. -/
theorem shortString_enforces :
    ∃ (o : ManagedObject) (a : Agent),
      ObjectEntry.object ⟨⟨[1, 1]⟩, .plain shortString⟩ ⟨0⟩ = .ok o ∧ 1 ≤ a.maxBindings ∧
      a.store.object? ⟨[1, 1]⟩ = some o ∧ a.policy.allows none ⟨[1, 1]⟩ = true ∧
      (∃ r, (a.set none [⟨⟨[1, 1]⟩, .octets [0, 0, 0, 0]⟩]).answer = .response r ∧
        r.status = .wrongLength ∧ r.errorIndex = 1) ∧
      (∃ r, (a.set none [⟨⟨[1, 1]⟩, .octets [0, 0, 0]⟩]).answer = .response r ∧
        r.status = .wrongValue ∧ r.errorIndex = 1) ∧
      (∃ r, (a.set none [⟨⟨[1, 1]⟩, .integer 0⟩]).answer = .response r ∧
        r.status = .wrongType ∧ r.errorIndex = 1) ∧
      ∃ r, (a.set none [⟨⟨[1, 1]⟩, .octets [10]⟩]).answer = .response r ∧ r.status = .noError := by
  obtain ⟨o, hbuilt, hoid⟩ : ∃ o, ObjectEntry.object ⟨⟨[1, 1]⟩, .plain shortString⟩ ⟨0⟩ = .ok o ∧
      o.oid = ⟨[1, 1]⟩ := ⟨_, rfl, rfl⟩
  let a : Agent := .ofStore (Store.empty.put o)
  have hroom : 1 ≤ a.maxBindings := (by decide : 1 ≤ Agent.defaultMaxBindings)
  have hfound : a.store.object? ⟨[1, 1]⟩ = some o := hoid ▸ Store.object?_put_self .empty o
  have hallowed : a.policy.allows none ⟨[1, 1]⟩ = true := rfl
  have hdue (v : Value) : ∃ r, (a.set none [⟨⟨[1, 1]⟩, v⟩]).answer = .response r ∧
      r.status = shortString.dueStatus (.octets [97, 98]) v ∧
      (r.status ≠ .noError → r.errorIndex = 1) := by
    obtain ⟨first, r, hfirst, hanswer, hstatus, -, -, hrefused⟩ :=
      set_enforces_bounds rfl hbuilt hroom hfound hallowed v
    obtain rfl := Option.some.inj hfirst
    exact ⟨r, hanswer, hstatus, fun hne => (hrefused hne).1⟩
  refine ⟨o, a, hbuilt, hroom, hfound, hallowed, ?_, ?_, ?_, ?_⟩
  · obtain ⟨r, hanswer, hstatus, hindex⟩ := hdue (.octets [0, 0, 0, 0])
    have hlength : r.status = .wrongLength := hstatus.trans (by decide)
    exact ⟨r, hanswer, hlength, hindex (by simp [hlength])⟩
  · obtain ⟨r, hanswer, hstatus, hindex⟩ := hdue (.octets [0, 0, 0])
    have hcontent : r.status = .wrongValue := hstatus.trans (by decide)
    exact ⟨r, hanswer, hcontent, hindex (by simp [hcontent])⟩
  · obtain ⟨r, hanswer, hstatus, hindex⟩ := hdue (.integer 0)
    have htype : r.status = .wrongType := hstatus.trans (by decide)
    exact ⟨r, hanswer, htype, hindex (by simp [htype])⟩
  · obtain ⟨r, hanswer, hstatus, -⟩ := hdue (.octets [10])
    exact ⟨r, hanswer, hstatus.trans (by decide)⟩

end ObjectEntry

end SnmpSet
