import SnmpSet.Proofs.Judgement
import SnmpSet.Proofs.KeyChange.Commit
import SnmpSet.Proofs.Rules

/-!
# Prepare and check foresee commit

What an object prepares and checks it can also commit: prepare makes the
proposal agree with the stored value in base type and with the kind in shape, and
this is all that a commit needs. The one exception is a key whose protocol
derives a key of the wrong length, which shows only when it is derived. Neither
prepare nor check refuses a proposal as failed at commit of its own accord.
-/

namespace SnmpSet

/-- A requester that is not the owner of a key has no access to it. -/
theorem KeyChangeColumn.status_of_vet {column : KeyChangeColumn} {requester : Requester}
    {e : Refusal} (hrefused : column.vet requester = .error e) : e.status = .noAccess := by
  unfold vet at hrefused
  split at hrefused
  · obtain rfl := Except.error.inj hrefused
    rfl
  · split at hrefused
    · split at hrefused
      · obtain rfl := Except.error.inj hrefused
        rfl
      · split at hrefused
        · simp at hrefused
        · obtain rfl := Except.error.inj hrefused
          rfl
    · obtain rfl := Except.error.inj hrefused
      rfl

/-- A key-change value that is not prepared has the wrong length or shape. -/
theorem KeyChangeColumn.status_of_prepare {column : KeyChangeColumn} {proposed : Value}
    {e : Refusal} (hrefused : column.prepare proposed = .error (.refused e)) :
    e.status = .wrongLength := by
  unfold prepare at hrefused
  split at hrefused
  · obtain ⟨cause, -, hcause⟩ := mapError_eq_error.mp hrefused
    cases cause with
    | tooShort _ _ =>
      obtain rfl := WriteFailure.refused.inj hcause
      rfl
    | overflow _ => cases hcause
  · obtain rfl := WriteFailure.refused.inj (Except.error.inj hrefused)
    rfl

/-- A proposal that a counter does not prepare disagrees with the counter. -/
theorem TestAndIncr.status_of_prepare {stored proposed : Value} {e : Refusal}
    (hrefused : prepare stored proposed = .error e) : e.status = .inconsistentValue := by
  unfold prepare at hrefused
  split at hrefused
  · simp at hrefused
  · obtain rfl := Except.error.inj hrefused
    rfl

/-- A proposal that a counter checks is an integer. -/
theorem TestAndIncr.exists_integer_of_check {proposed : Value} (hcheck : check proposed = .ok ()) :
    ∃ n, proposed = .integer n := by
  unfold check at hcheck
  split at hcheck
  · exact ⟨_, rfl⟩
  · simp at hcheck

/-- A proposal that a counter does not check has the wrong value. -/
theorem TestAndIncr.status_of_check {proposed : Value} {e : Refusal}
    (hrefused : check proposed = .error e) : e.status = .wrongValue := by
  unfold check at hrefused
  split at hrefused
  · split at hrefused
    · simp at hrefused
    · obtain rfl := Except.error.inj hrefused
      rfl
  · obtain rfl := Except.error.inj hrefused
    rfl

namespace Kind

variable {k : Kind} {column : KeyChangeColumn} {stored proposed : Value} {requester : Requester}
  {e : Refusal}

/-- Only keys have key-change columns. -/
theorem eq_of_column? (hcolumn : k.column? = some column) :
    k = .keyChange column ∨ k = .ownKeyChange column := by
  cases k with
  | keyChange _ =>
    obtain rfl := Option.some.inj hcolumn
    exact .inl rfl
  | ownKeyChange _ =>
    obtain rfl := Option.some.inj hcolumn
    exact .inr rfl
  | plain | testAndIncr | timeStamp _ => simp [column?] at hcolumn

/-- A kind with a key-change column commits as the column does. -/
theorem commit_of_column? (hcolumn : k.column? = some column) :
    k.commit stored proposed = column.commit stored proposed := by
  rcases eq_of_column? hcolumn with rfl | rfl <;> rfl

/-- A kind with a key-change column prepares what the column does, for a requester
that it does not turn away. -/
theorem prepare_eq_of_column? (hcolumn : k.column? = some column)
    (hvet : k.vet requester = .ok ()) :
    k.prepare stored proposed requester = column.prepare proposed := by
  rcases eq_of_column? hcolumn with rfl | rfl <;> simp [prepare, hvet]

/-- A kind with a key-change column prepares only what the column does. -/
theorem prepare_of_column? (hcolumn : k.column? = some column)
    (hprepare : k.prepare stored proposed requester = .ok ()) :
    column.prepare proposed = .ok () := by
  cases hvet : k.vet requester with
  | error e => simp [prepare, hvet] at hprepare
  | ok _ => rwa [prepare_eq_of_column? hcolumn hvet] at hprepare

/-- A kind with a key-change column has nothing to check. -/
theorem check_of_column? (hcolumn : k.column? = some column) : k.check proposed = .ok () := by
  rcases eq_of_column? hcolumn with rfl | rfl <;> rfl

/-- A kind that turns a requester away grants no access. -/
theorem status_of_vet (hrefused : k.vet requester = .error e) : e.status = .noAccess := by
  cases k with
  | ownKeyChange column => exact KeyChangeColumn.status_of_vet hrefused
  | plain | testAndIncr | timeStamp _ | keyChange _ => simp [vet] at hrefused

/-- A kind that cannot be written is not writable. -/
theorem eq_notWritable_of_writable (hrefused : k.writable = .error e) : e = .notWritable := by
  cases k with
  | timeStamp _ => exact (Except.error.inj hrefused).symm
  | plain | testAndIncr | keyChange _ | ownKeyChange _ => simp [writable] at hrefused

/-- No kind refuses to prepare a proposal as failed at commit. -/
theorem status_prepare_ne_commitFailed
    (hrefused : k.prepare stored proposed requester = .error (.refused e)) :
    e.status ≠ .commitFailed := by
  unfold prepare at hrefused
  split at hrefused
  · next hvet =>
    obtain rfl := WriteFailure.refused.inj (Except.error.inj hrefused)
    simp [status_of_vet hvet]
  · cases k with
    | plain => simp at hrefused
    | testAndIncr =>
      obtain ⟨cause, hcause, hsame⟩ := mapError_eq_error.mp hrefused
      obtain rfl := WriteFailure.refused.inj hsame
      simp [TestAndIncr.status_of_prepare hcause]
    | timeStamp _ =>
      obtain rfl := WriteFailure.refused.inj (Except.error.inj hrefused)
      simp [Refusal.status]
    | keyChange _ | ownKeyChange _ => simp [KeyChangeColumn.status_of_prepare hrefused]

/-- No kind refuses a proposal at check as failed at commit. -/
theorem status_check_ne_commitFailed (hrefused : k.check proposed = .error e) :
    e.status ≠ .commitFailed := by
  cases k with
  | testAndIncr => simp [TestAndIncr.status_of_check hrefused]
  | plain | timeStamp _ | keyChange _ | ownKeyChange _ => simp [check] at hrefused

end Kind

namespace ObjectBody

variable {b : ObjectBody} {proposed : Value} {requester : Requester}

/-- The object is a key whose protocol derives, from the stored key and the
proposal, a key of the wrong length. -/
def Misderives (b : ObjectBody) (proposed : Value) : Prop :=
  ∃ column ∈ b.kind.column?, ∃ oldKey keyChange, b.value = .octets oldKey ∧
    proposed = .octets keyChange ∧ column.Misderives oldKey keyChange

/-- What prepare and check make sure of before a commit, kind by kind. -/
inductive Fits (b : ObjectBody) (proposed : Value) : Prop where
  /-- A plain object takes any proposal. -/
  | plain (hkind : b.kind = .plain)
  /-- A counter holds the integer that is proposed. -/
  | counter {n : Int32} (hkind : b.kind = .testAndIncr) (hvalue : b.value = .integer n)
  /-- A key is changed by octets that pass the length test. -/
  | key {column : KeyChangeColumn} {oldKey keyChange : List UInt8}
      (hcolumn : b.kind.column? = some column) (hvalue : b.value = .octets oldKey)
      (hproposed : proposed = .octets keyChange)
      (htests : column.Tests keyChange)

/-- A value of the base type of octet strings is an octet string. -/
theorem exists_octets_of_baseType {v : Value} {bytes : List UInt8}
    (htype : (Value.octets bytes).baseType = v.baseType) : ∃ octets, v = .octets octets := by
  cases v with
  | octets octets => exact ⟨octets, rfl⟩
  | integer _ | timeTicks _ | objectId _ => simp [Value.baseType] at htype

/-- A proposal that is prepared and checked fits the object. -/
theorem fits_of_prepare_check (hprepare : (b.prepare proposed requester).verdict = .ok ())
    (hcheck : (b.check proposed).verdict = .ok ()) : b.Fits proposed := by
  obtain ⟨hwritable, -, htype, -, hkind⟩ := verdict_prepare_eq_ok.mp hprepare
  obtain ⟨-, hchecked⟩ := verdict_check_eq_ok.mp hcheck
  have hkey {column : KeyChangeColumn} (hcolumn : b.kind.column? = some column) :
      b.Fits proposed := by
    obtain ⟨keyChange, rfl, htests⟩ :=
      KeyChangeColumn.prepare_eq_ok_iff.mp (Kind.prepare_of_column? hcolumn hkind)
    obtain ⟨oldKey, hvalue⟩ := exists_octets_of_baseType htype
    exact .key hcolumn hvalue rfl htests
  cases hk : b.kind with
  | plain => exact .plain hk
  | testAndIncr =>
    rw [hk] at hkind hchecked
    obtain ⟨n, rfl⟩ := TestAndIncr.exists_integer_of_check hchecked
    have hvalue : b.value = .integer n := by
      simpa [Kind.prepare, Kind.vet, TestAndIncr.prepare] using hkind
    exact .counter hk hvalue
  | timeStamp stamp => simp [hk, Kind.writable] at hwritable
  | keyChange column | ownKeyChange column => exact hkey (by rw [hk]; rfl)

/-- A proposal that fits is committed, unless it misderives. -/
theorem Fits.exists_commit (hfits : b.Fits proposed) (hderives : ¬b.Misderives proposed) :
    ∃ c, b.kind.commit b.value proposed = .ok c := by
  cases hfits with
  | plain hkind => exact ⟨_, by rw [hkind]; rfl⟩
  | counter hkind hvalue => exact ⟨_, by rw [hkind, hvalue]; rfl⟩
  | @key column oldKey keyChange hcolumn hvalue hproposed htests =>
    have hderives' : ¬column.Misderives oldKey keyChange := fun hmisderives =>
      hderives ⟨column, hcolumn, oldKey, keyChange, hvalue, hproposed, hmisderives⟩
    rw [Kind.commit_of_column? hcolumn, hvalue, hproposed]
    exact ⟨_, KeyChangeColumn.commit_of_derived htests hderives'⟩

/-- A proposal that fits and misderives is refused at commit. -/
theorem Fits.commit_of_misderives (hfits : b.Fits proposed)
    (hmisderives : b.Misderives proposed) :
    ∃ reason, b.kind.commit b.value proposed = .error (.refused (.commitFailed reason)) := by
  obtain ⟨column, hcolumn, oldKey, keyChange, hvalue, rfl, hlength⟩ := hmisderives
  rw [Kind.commit_of_column? hcolumn, hvalue]
  cases hfits with
  | plain hkind => simp [hkind, Kind.column?] at hcolumn
  | counter hkind _ => simp [hkind, Kind.column?] at hcolumn
  | key hcolumn' _ hproposed htests =>
    obtain rfl := Option.some.inj (hcolumn'.symm.trans hcolumn)
    obtain rfl := Value.octets.inj hproposed
    exact KeyChangeColumn.commit_of_misderived htests hlength

/-- An object commits a proposal if its kind does. -/
theorem exists_commit_iff {oid : Oid} : (∃ result, b.commit oid proposed = .ok result) ↔
    ∃ c, b.kind.commit b.value proposed = .ok c := by
  unfold commit
  cases b.kind.commit b.value proposed with
  | ok c => simp
  | error failure => simp

/-- If an object refuses to prepare a proposal as failed at commit, a rule of the
application's own has said so. -/
theorem exists_rule_of_prepare {e : Refusal}
    (hrefused : (b.prepare proposed requester).verdict = .error (.refused e))
    (hstatus : e.status = .commitFailed) :
    ∃ rule ∈ b.rules.rules, rule.isCustom ∧ rule.refusal? proposed b.value = some e := by
  simp only [verdict_prepare_eq_refused, screen, Judgement.verdict_andThen_eq_error,
    Judgement.verdict_direct] at hrefused
  rcases hrefused with (hwritable | ⟨-, hvet | ⟨-, htype | ⟨-, hrules⟩⟩⟩) | ⟨-, hkind⟩
  · obtain rfl := Kind.eq_notWritable_of_writable hwritable
    simp [Refusal.status] at hstatus
  · rw [Kind.status_of_vet hvet] at hstatus
    simp at hstatus
  · split at htype
    · simp at htype
    · obtain rfl := Except.error.inj htype
      simp [Refusal.status] at hstatus
  · exact RuleList.exists_custom_of_judge hrules hstatus
  · exact absurd hstatus (Kind.status_prepare_ne_commitFailed hkind)

/-- If an object refuses a proposal at check as failed at commit, a rule of the
application's own has said so. -/
theorem exists_rule_of_check {e : Refusal} (hrefused : (b.check proposed).verdict = .error e)
    (hstatus : e.status = .commitFailed) :
    ∃ rule ∈ b.rules.rules, rule.isCustom ∧ rule.refusal? proposed b.value = some e := by
  simp only [check, Judgement.verdict_andThen_eq_error, Judgement.verdict_direct] at hrefused
  rcases hrefused with hrules | ⟨-, hkind⟩
  · exact RuleList.exists_custom_of_judge hrules hstatus
  · exact absurd hstatus (Kind.status_check_ne_commitFailed hkind)

end ObjectBody

end SnmpSet
