import SnmpSet.Proofs.KeyChange.Commit

/-!
# Key lengths at the limits of a word

For a key length of `2 ^ 63` or more the shortest permitted value has a length that no
machine word tells. The length test then halts, whatever the value, and with it the change
of a key, the prepare and the commit of a column. For all other key lengths a value is
treated as its length demands, and nothing halts.
-/

namespace SnmpSet

namespace KeyProtocol

variable {p : KeyProtocol} {oldKey keyChange : List UInt8} {keyLength : UInt64} {length : Nat}

/-- Twice the key length is past all machine words. -/
def Overflows (keyLength : UInt64) : Prop := UInt64.size ≤ 2 * keyLength.toNat

instance (keyLength : UInt64) : Decidable (Overflows keyLength) :=
  inferInstanceAs (Decidable (_ ≤ _))

/-- Tests a length against twice the key length as a number. -/
def testLengthByNumber (length : Nat) (keyLength : UInt64) : Except KeyChangeError Unit :=
  if length < 2 * keyLength.toNat then .error (.tooShort length keyLength) else .ok ()

/-- Applies a key-change value to an old key, with twice the key length as a number. -/
def rotateByNumber (p : KeyProtocol) (oldKey keyChange : List UInt8) (keyLength : UInt64) :
    Except KeyChangeError RotatedKey :=
  if keyChange.length < 2 * keyLength.toNat then .error (.tooShort keyChange.length keyLength)
  else
    let random := keyChange.take keyLength.toNat
    let newKey := p.applyDelta oldKey (keyChange.drop keyLength.toNat) random
    .ok { key := newKey, reported := random ++ newKey.drop keyLength.toNat }

/-- Where the key length overflows the length test halts, whatever the value. -/
theorem testLength_of_overflows (hoverflows : Overflows keyLength) :
    testLength length keyLength = .error (.overflow keyLength) :=
  testLength_eq_overflow_iff.mpr hoverflows

/-- Where the key length does not overflow the length test compares numbers. -/
theorem testLength_of_not_overflows (hfits : ¬Overflows keyLength) :
    testLength length keyLength = testLengthByNumber length keyLength := by
  have hword : ¬UInt64.size ≤ 2 * keyLength.toNat := hfits
  rw [testLength_eq, if_neg hword, testLengthByNumber]

/-- A value is applied as its length demands just if the key length does not overflow. -/
theorem rotate_eq_byNumber_iff :
    p.rotate oldKey keyChange keyLength = p.rotateByNumber oldKey keyChange keyLength ↔
      ¬Overflows keyLength := by
  constructor
  · intro hsame hoverflows
    rw [rotate_of_untested (testLength_of_overflows hoverflows), rotateByNumber] at hsame
    split at hsame <;> simp at hsame
  · intro hfits
    rw [rotate, rotateByNumber, testLength_of_not_overflows hfits, testLengthByNumber]
    by_cases hshort : keyChange.length < 2 * keyLength.toNat <;> simp [hshort]

/-- The change of a key halts just if the key length overflows. -/
theorem rotate_eq_overflow_iff :
    p.rotate oldKey keyChange keyLength = .error (.overflow keyLength) ↔
      Overflows keyLength := by
  have htest : testLength keyChange.length keyLength = .error (.overflow keyLength) ↔
      Overflows keyLength := testLength_eq_overflow_iff
  rw [← htest, rotate]
  cases testLength keyChange.length keyLength <;> simp

end KeyProtocol

namespace KeyChangeColumn

open KeyProtocol

variable {column : KeyChangeColumn} {stored proposed : Value}

/-- Prepares a value with twice the key length as a number. -/
def prepareByNumber (column : KeyChangeColumn) : Value → Except WriteFailure Unit
  | .octets keyChange =>
    (testLengthByNumber keyChange.length column.protocol.keyLength).mapError
      KeyChangeError.failure
  | _ => .error (.refused (.malformed "key change is not an octet string"))

/-- No value halts a column that compares numbers. -/
theorem prepareByNumber_ne_halted : column.prepareByNumber proposed ≠ .error .halted := by
  unfold prepareByNumber testLengthByNumber
  split
  · split <;> simp [KeyChangeError.failure]
  · simp

/-- Where the key length does not overflow a column judges a value as its length demands. -/
theorem prepare_of_not_overflows (hfits : ¬Overflows column.protocol.keyLength) :
    column.prepare proposed = column.prepareByNumber proposed := by
  cases proposed with
  | integer _ | timeTicks _ | objectId _ => rfl
  | octets keyChange => rw [prepare, prepareByNumber, testLength_of_not_overflows hfits]

/-- A column halts at prepare just if its key length overflows and it is given octets. -/
theorem prepare_eq_halted_iff :
    column.prepare proposed = .error .halted ↔
      Overflows column.protocol.keyLength ∧ ∃ keyChange, proposed = .octets keyChange := by
  constructor
  · intro hhalted
    constructor
    · refine Decidable.byContradiction fun hfits => ?_
      exact prepareByNumber_ne_halted ((prepare_of_not_overflows hfits).symm.trans hhalted)
    · cases proposed with
      | octets keyChange => exact ⟨keyChange, rfl⟩
      | integer _ | timeTicks _ | objectId _ => simp [prepare] at hhalted
  · rintro ⟨hoverflows, keyChange, rfl⟩
    rw [prepare, testLength_of_overflows hoverflows]
    rfl

/-- A column judges a value as its length demands just if it does not halt. -/
theorem prepare_eq_byNumber_iff :
    column.prepare proposed = column.prepareByNumber proposed ↔
      column.prepare proposed ≠ .error .halted := by
  constructor
  · intro hsame
    rw [hsame]
    exact prepareByNumber_ne_halted
  · intro hnot
    cases proposed with
    | integer _ | timeTicks _ | objectId _ => rfl
    | octets keyChange =>
      exact prepare_of_not_overflows fun hoverflows =>
        hnot (prepare_eq_halted_iff.mpr ⟨hoverflows, keyChange, rfl⟩)

/-- A column halts at commit just if its key length overflows and it is given octets for a
key. -/
theorem commit_eq_halted_iff :
    column.commit stored proposed = .error .halted ↔
      Overflows column.protocol.keyLength ∧
        ∃ oldKey keyChange, stored = .octets oldKey ∧ proposed = .octets keyChange := by
  constructor
  · intro hhalted
    cases stored with
    | integer _ | timeTicks _ | objectId _ => simp [commit] at hhalted
    | octets oldKey =>
      cases proposed with
      | integer _ | timeTicks _ | objectId _ => simp [commit] at hhalted
      | octets keyChange =>
        refine ⟨?_, oldKey, keyChange, rfl, rfl⟩
        -- the value fails at prepare, and at commit in the same way
        cases hprepare : column.prepare (.octets keyChange) with
        | ok _ => exact absurd hhalted (commit_ne_halted_of_prepare hprepare)
        | error failure =>
          rw [commit_of_unprepared hprepare] at hhalted
          obtain rfl := Except.error.inj hhalted
          exact (prepare_eq_halted_iff.mp hprepare).1
  · rintro ⟨hoverflows, oldKey, keyChange, rfl, rfl⟩
    exact commit_of_unprepared (prepare_eq_halted_iff.mpr ⟨hoverflows, keyChange, rfl⟩)

end KeyChangeColumn

namespace KeyProtocol

/-- A value is applied as its length demands just if twice the key length is a machine word:
it is refused as too short if it is shorter than twice the key length, and split after one
key length if it is not. For all other key lengths the change of a key halts. A column halts
at prepare and at commit for these key lengths alone, and there for every octet string; it
prepares all other values as their length demands. -/
theorem rotate_follows_length (p : KeyProtocol) (oldKey keyChange : List UInt8)
    (keyLength : UInt64) :
    (p.rotate oldKey keyChange keyLength = p.rotateByNumber oldKey keyChange keyLength ↔
      ¬Overflows keyLength) ∧
    (p.rotate oldKey keyChange keyLength = .error (.overflow keyLength) ↔
      Overflows keyLength) ∧
    ∀ (column : KeyChangeColumn) (stored proposed : Value),
      (column.prepare proposed = column.prepareByNumber proposed ↔
        column.prepare proposed ≠ .error .halted) ∧
      (column.prepare proposed = .error .halted ↔
        Overflows column.protocol.keyLength ∧ ∃ keyChange, proposed = .octets keyChange) ∧
      (column.commit stored proposed = .error .halted ↔
        Overflows column.protocol.keyLength ∧
          ∃ oldKey keyChange, stored = .octets oldKey ∧ proposed = .octets keyChange) :=
  ⟨rotate_eq_byNumber_iff, rotate_eq_overflow_iff, fun _ _ _ =>
    ⟨KeyChangeColumn.prepare_eq_byNumber_iff, KeyChangeColumn.prepare_eq_halted_iff,
      KeyChangeColumn.commit_eq_halted_iff⟩⟩

/-- A column whose keys have half as many octets as there are machine words. -/
def halfWordColumn : KeyChangeColumn := .create (.failing 9223372036854775808) .empty

/-- Not every value is applied as its length demands: a value that is far too short halts the
change of a key, the prepare and the commit of a column. -/
theorem not_forall_rotate_byNumber :
    (¬∀ (p : KeyProtocol) (oldKey keyChange : List UInt8) (keyLength : UInt64),
      p.rotate oldKey keyChange keyLength = p.rotateByNumber oldKey keyChange keyLength) ∧
    (¬∀ (column : KeyChangeColumn) (proposed : Value),
      column.prepare proposed = column.prepareByNumber proposed) ∧
    ¬∀ (column : KeyChangeColumn) (stored proposed : Value),
      column.commit stored proposed ≠ .error .halted := by
  have hoverflows : Overflows halfWordColumn.protocol.keyLength := by decide
  refine ⟨fun hall => ?_, fun hall => ?_, fun hall => ?_⟩
  · have hsame := hall halfWordColumn.protocol [0] [0xaa, 0xbb, 0xcc]
      halfWordColumn.protocol.keyLength
    exact rotate_eq_byNumber_iff.mp hsame hoverflows
  · have hsame := hall halfWordColumn (.octets [0xaa, 0xbb, 0xcc])
    exact KeyChangeColumn.prepare_eq_byNumber_iff.mp hsame
      (KeyChangeColumn.prepare_eq_halted_iff.mpr ⟨hoverflows, _, rfl⟩)
  · refine hall halfWordColumn (.octets [0]) (.octets [0xaa, 0xbb, 0xcc]) ?_
    exact KeyChangeColumn.commit_eq_halted_iff.mpr ⟨hoverflows, _, _, rfl, rfl⟩

end KeyProtocol

end SnmpSet
