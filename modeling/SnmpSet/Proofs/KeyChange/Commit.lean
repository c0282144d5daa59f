import SnmpSet.Kind
import SnmpSet.Proofs.Judgement
import SnmpSet.Proofs.KeyChange.Derivation

/-!
# Commits of key-change columns

The test on the length of a key-change value decides in the same way at prepare and at
commit. A value passes it only if twice the key length fits in a machine word and the value
is no shorter, so that it can be split. For keys of any other length the agent halts at
prepare, and no commit halts that follows a successful prepare.
-/

namespace SnmpSet

/-- Twice the length of the protocol's keys fits in a machine word, which is to say
that the length is below `2 ^ 63`. -/
def KeyProtocol.KeyBounded (p : KeyProtocol) : Prop := 2 * p.keyLength.toNat < UInt64.size

instance (p : KeyProtocol) : Decidable p.KeyBounded :=
  inferInstanceAs (Decidable (2 * p.keyLength.toNat < UInt64.size))

/-- Protocols that mask with a digest have bounded keys. -/
theorem KeyProtocol.UsesDigest.keyBounded {p : KeyProtocol} (hp : p.UsesDigest) :
    p.KeyBounded := by
  obtain ⟨id, d, rfl⟩ := hp
  rw [KeyBounded, toNat_keyLength_ofDigest]
  exact d.outputSize_lt

namespace KeyProtocol

variable {length : Nat} {keyLength : UInt64}

/-- The length test halts where twice the key length is no machine word, and compares with
this number elsewhere. -/
theorem testLength_eq (length : Nat) (keyLength : UInt64) :
    testLength length keyLength =
      if UInt64.size ≤ 2 * keyLength.toNat then .error (.overflow keyLength)
      else if length < 2 * keyLength.toNat then .error (.tooShort length keyLength)
      else .ok () := by
  have htwo : (2 : UInt64).toNat = 2 := rfl
  unfold testLength Word.mul?
  rw [htwo]
  cases hproduct : Word.uint64? (2 * keyLength.toNat) with
  | none => rw [if_pos (Word.uint64?_eq_none_iff.mp hproduct)]
  | some least =>
    have hleast := Word.uint64?_eq_some_iff.mp hproduct
    have hword : least.toNat < UInt64.size := least.toNat_lt
    rw [if_neg (by omega), ← hleast]

/-- A value passes the length test just if twice the key length is a machine word, and the
value is no shorter. -/
theorem testLength_eq_ok_iff :
    testLength length keyLength = .ok () ↔
      2 * keyLength.toNat < UInt64.size ∧ 2 * keyLength.toNat ≤ length := by
  rw [testLength_eq]
  split
  · next hoverflows => simp [Nat.not_lt.mpr hoverflows]
  · next hfits =>
    split
    · next hshort => simp [Nat.not_le.mpr hshort]
    · next hlong => simp [Nat.not_le.mp hfits, Nat.not_lt.mp hlong]

/-- The length test halts just if twice the key length is no machine word. -/
theorem testLength_eq_overflow_iff :
    testLength length keyLength = .error (.overflow keyLength) ↔
      UInt64.size ≤ 2 * keyLength.toNat := by
  rw [testLength_eq]
  split
  · next hoverflows => simp [hoverflows]
  · next hfits => split <;> simp [hfits]

/-- A value is applied to a key just if it passes the length test. What follows the random
part is applied as a delta, and the random part is reported with what the new key has
beyond one key length. -/
theorem rotate_eq_ok_iff {p : KeyProtocol} {oldKey keyChange : List UInt8} {r : RotatedKey} :
    p.rotate oldKey keyChange keyLength = .ok r ↔
      testLength keyChange.length keyLength = .ok () ∧
        r.key = p.applyDelta oldKey (keyChange.drop keyLength.toNat)
          (keyChange.take keyLength.toNat) ∧
        r.reported = keyChange.take keyLength.toNat ++ r.key.drop keyLength.toNat := by
  obtain ⟨key, reported⟩ := r
  unfold rotate
  cases testLength keyChange.length keyLength with
  | error e => simp
  | ok _ =>
    simp only [Except.ok.injEq, RotatedKey.mk.injEq, true_and]
    constructor
    · rintro ⟨rfl, rfl⟩
      exact ⟨rfl, rfl⟩
    · rintro ⟨rfl, rfl⟩
      exact ⟨rfl, rfl⟩

/-- A value that does not pass the length test is not applied, for the same reason. -/
theorem rotate_of_untested {p : KeyProtocol} {oldKey keyChange : List UInt8}
    {e : KeyChangeError} (hfails : testLength keyChange.length keyLength = .error e) :
    p.rotate oldKey keyChange keyLength = .error e := by
  rw [rotate, hfails]

end KeyProtocol

namespace KeyChangeColumn

/-- The key that a commit derives from the stored key and a key-change value. -/
def derivedKey (column : KeyChangeColumn) (oldKey keyChange : List UInt8) : List UInt8 :=
  column.protocol.applyDelta oldKey (keyChange.drop column.protocol.keyLength.toNat)
    (keyChange.take column.protocol.keyLength.toNat)

/-- The protocol derives a key that is not as long as the delta it is given. -/
def Misderives (column : KeyChangeColumn) (oldKey keyChange : List UInt8) : Prop :=
  (column.derivedKey oldKey keyChange).length ≠
    (keyChange.drop column.protocol.keyLength.toNat).length

instance (column : KeyChangeColumn) (oldKey keyChange : List UInt8) :
    Decidable (column.Misderives oldKey keyChange) := inferInstanceAs (Decidable (_ ≠ _))

/-- A value passes the length test of a column. -/
def Tests (column : KeyChangeColumn) (keyChange : List UInt8) : Prop :=
  KeyProtocol.testLength keyChange.length column.protocol.keyLength = .ok ()

variable {column : KeyChangeColumn} {oldKey keyChange : List UInt8}

/-- A digest never misderives. -/
theorem not_misderives (hdigest : column.protocol.UsesDigest) :
    ¬column.Misderives oldKey keyChange :=
  fun hlength => hlength (hdigest.length_applyDelta _ _ _)

/-- An octet string is prepared just if it passes the length test. -/
theorem prepare_octets_eq_ok_iff :
    column.prepare (.octets keyChange) = .ok () ↔ column.Tests keyChange := by
  rw [prepare, mapError_eq_ok, Tests]

/-- A value that is not prepared fails to be committed in the same way. -/
theorem commit_of_unprepared {failure : WriteFailure}
    (hfails : column.prepare (.octets keyChange) = .error failure) :
    column.commit (.octets oldKey) (.octets keyChange) = .error failure := by
  obtain ⟨e, htest, rfl⟩ := mapError_eq_error.mp hfails
  simp [commit, KeyProtocol.rotate_of_untested htest]

/-- A value that passes the length test is committed if the key derived from it has the
right length. -/
theorem commit_of_derived (htests : column.Tests keyChange)
    (hderived : ¬column.Misderives oldKey keyChange) :
    column.commit (.octets oldKey) (.octets keyChange) = .ok
      ⟨.octets (column.derivedKey oldKey keyChange),
        .octets (keyChange.take column.protocol.keyLength.toNat ++
          (column.derivedKey oldKey keyChange).drop column.protocol.keyLength.toNat)⟩ := by
  have hlength : (column.derivedKey oldKey keyChange).length =
      keyChange.length - column.protocol.keyLength.toNat := by
    simpa [Misderives] using hderived
  unfold Tests at htests
  unfold derivedKey at hlength ⊢
  simpa [commit, KeyProtocol.rotate, htests] using hlength

/-- A key of the wrong length is refused. -/
theorem commit_of_misderived (htests : column.Tests keyChange)
    (hderived : column.Misderives oldKey keyChange) :
    ∃ reason, column.commit (.octets oldKey) (.octets keyChange) =
      .error (.refused (.commitFailed reason)) := by
  have hlength : (column.derivedKey oldKey keyChange).length ≠
      keyChange.length - column.protocol.keyLength.toNat := by
    simpa [Misderives] using hderived
  unfold Tests at htests
  unfold derivedKey at hlength
  simp [commit, KeyProtocol.rotate, htests, hlength]

/-- What a column prepares is an octet string that passes the length test. -/
theorem prepare_eq_ok_iff {proposed : Value} :
    column.prepare proposed = .ok () ↔
      ∃ keyChange, proposed = .octets keyChange ∧ column.Tests keyChange := by
  cases proposed with
  | octets keyChange => simp [prepare_octets_eq_ok_iff]
  | integer _ | timeTicks _ | objectId _ => simp [prepare]

/-- What a column prepares does not halt the agent at commit, whatever is stored. -/
theorem commit_ne_halted_of_prepare {stored proposed : Value}
    (hprepare : column.prepare proposed = .ok ()) :
    column.commit stored proposed ≠ .error .halted := by
  obtain ⟨keyChange, rfl, htests⟩ := prepare_eq_ok_iff.mp hprepare
  cases stored with
  | octets oldKey =>
    by_cases hmisderives : column.Misderives oldKey keyChange
    · obtain ⟨reason, hcommit⟩ := commit_of_misderived htests hmisderives
      simp [hcommit]
    · simp [commit_of_derived htests hmisderives]
  | integer _ | timeTicks _ | objectId _ => simp [commit]

/-- A commit that comes about replaces one key by another, which is as long as what follows
the random part in the value. -/
theorem exists_key_of_commit {stored proposed : Value} {c : Committed}
    (hcommit : column.commit stored proposed = .ok c) :
    ∃ oldKey keyChange key, stored = .octets oldKey ∧ proposed = .octets keyChange ∧
      c.stored = .octets key ∧ column.Tests keyChange ∧
      key.length + column.protocol.keyLength.toNat = keyChange.length := by
  unfold commit at hcommit
  split at hcommit
  · next oldKey keyChange =>
    dsimp only at hcommit
    split at hcommit
    · simp at hcommit
    · next r hrotate =>
      obtain ⟨htests, -, -⟩ := KeyProtocol.rotate_eq_ok_iff.mp hrotate
      obtain ⟨-, hlong⟩ := KeyProtocol.testLength_eq_ok_iff.mp htests
      split at hcommit
      · next hlength =>
        obtain rfl := Except.ok.inj hcommit
        exact ⟨oldKey, keyChange, r.key, rfl, rfl, rfl, htests, by omega⟩
      · simp at hcommit
  · simp at hcommit
  · simp at hcommit

/-- A commit that comes about leaves a key that is no shorter than the keys of the
protocol. -/
theorem keyLength_le_of_commit {stored proposed : Value} {c : Committed}
    (hcommit : column.commit stored proposed = .ok c) :
    ∃ keyChange key, proposed = .octets keyChange ∧ c.stored = .octets key ∧
      key.length + column.protocol.keyLength.toNat = keyChange.length ∧
      column.protocol.keyLength.toNat ≤ key.length := by
  obtain ⟨-, keyChange, key, -, hproposed, hstored, htests, hlength⟩ :=
    exists_key_of_commit hcommit
  obtain ⟨-, hlong⟩ := KeyProtocol.testLength_eq_ok_iff.mp htests
  exact ⟨keyChange, key, hproposed, hstored, hlength, by omega⟩

/-- For bounded keys no value halts the agent at prepare. -/
theorem prepare_ne_halted (hbounded : column.protocol.KeyBounded) (proposed : Value) :
    column.prepare proposed ≠ .error .halted := by
  cases proposed with
  | octets keyChange =>
    intro hhalted
    obtain ⟨e, htest, he⟩ := mapError_eq_error.mp hhalted
    cases e with
    | tooShort _ _ => cases he
    | overflow keyLength =>
      rw [KeyProtocol.testLength_eq, if_neg (Nat.not_le.mpr hbounded)] at htest
      split at htest <;> cases htest
  | integer _ | timeTicks _ | objectId _ => simp [prepare]

end KeyChangeColumn

/-- The key-change column of a kind has bounded keys; other kinds have no keys. -/
def Kind.KeyBounded (k : Kind) : Prop := ∀ column ∈ k.column?, column.protocol.KeyBounded

instance (k : Kind) : Decidable k.KeyBounded :=
  inferInstanceAs (Decidable (∀ column ∈ k.column?, column.protocol.KeyBounded))

namespace Kind

/-- A kind without a key-change column has no keys to bound. -/
theorem keyBounded_of_column?_eq_none {k : Kind} (hcolumn : k.column? = none) : k.KeyBounded := by
  simp [KeyBounded, hcolumn]

variable {k : Kind} {stored proposed : Value} {requester : Requester}

/-- For bounded keys no kind of object halts the agent at prepare. -/
theorem prepare_ne_halted (hbounded : k.KeyBounded) :
    k.prepare stored proposed requester ≠ .error .halted := by
  unfold prepare
  split
  · simp
  · cases k with
    | plain | timeStamp _ => simp
    | testAndIncr => simp
    | keyChange column | ownKeyChange column =>
      exact KeyChangeColumn.prepare_ne_halted (hbounded column rfl) _

/-- What a kind prepares does not halt the agent at commit, however long the keys are. -/
theorem commit_ne_halted_of_prepare (hprepare : k.prepare stored proposed requester = .ok ()) :
    k.commit stored proposed ≠ .error .halted := by
  unfold prepare at hprepare
  split at hprepare
  · cases hprepare
  · cases k with
    | plain | timeStamp _ => simp [commit]
    | testAndIncr => cases stored <;> simp [commit, TestAndIncr.commit]
    | keyChange column | ownKeyChange column =>
      exact KeyChangeColumn.commit_ne_halted_of_prepare hprepare

end Kind

/-- For bounded keys no object halts the agent at prepare. -/
theorem ObjectBody.verdict_prepare_ne_halted {b : ObjectBody} (hbounded : b.kind.KeyBounded)
    (proposed : Value) (requester : Requester) :
    (b.prepare proposed requester).verdict ≠ .error .halted := by
  intro hhalted
  obtain ⟨-, hkind⟩ := verdict_prepare_eq_halted.mp hhalted
  exact Kind.prepare_ne_halted hbounded hkind

end SnmpSet
