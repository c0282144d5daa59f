import SnmpSet.Proofs.Completeness

/-!
# What a key gives away

The stored key enters into the new key alone. As long as a key-change value is not
longer than a random part and a delta that is one key long, a commit reports the
random part and nothing else. So two objects that are the same but for the octets
of a key judge every proposal alike, report alike, fail alike and read alike.
-/

namespace SnmpSet

namespace KeyChangeColumn

variable {column : KeyChangeColumn} {keyChange : List UInt8}

/-- An octet string has at most a random part and a delta that is one key long. -/
def IsShort (column : KeyChangeColumn) : Value → Prop
  | .octets keyChange => keyChange.length ≤ 2 * column.protocol.keyLength.toNat
  | _ => True

instance (column : KeyChangeColumn) (proposed : Value) : Decidable (column.IsShort proposed) :=
  match proposed with
  | .octets keyChange =>
    inferInstanceAs (Decidable (keyChange.length ≤ 2 * column.protocol.keyLength.toNat))
  | .integer _ | .timeTicks _ | .objectId _ => .isTrue trivial

/-- With a digest the stored key decides neither whether the commit of a short value
fails nor what it reports. -/
theorem commit_of_isShort (hdigest : column.protocol.UsesDigest) {proposed : Value}
    (hshort : column.IsShort proposed) :
    (∃ failure, ∀ oldKey, column.commit (.octets oldKey) proposed = .error failure) ∨
      ∃ reported, ∀ oldKey, ∃ key,
        column.commit (.octets oldKey) proposed = .ok ⟨.octets key, reported⟩ := by
  cases proposed with
  | integer _ | timeTicks _ | objectId _ => exact .inl ⟨_, fun _ => rfl⟩
  | octets keyChange =>
    have hlong : keyChange.length ≤ 2 * column.protocol.keyLength.toNat := hshort
    cases hprepare : column.prepare (.octets keyChange) with
    | error failure => exact .inl ⟨failure, fun _ => commit_of_unprepared hprepare⟩
    | ok _ =>
      refine .inr ⟨.octets (keyChange.take column.protocol.keyLength.toNat), fun oldKey => ?_⟩
      -- the derived key is as long as the delta, so none of it is reported
      have hlength : (column.derivedKey oldKey keyChange).length ≤
          column.protocol.keyLength.toNat := by
        rw [derivedKey, hdigest.length_applyDelta, List.length_drop]
        omega
      refine ⟨column.derivedKey oldKey keyChange, ?_⟩
      rw [commit_of_derived (prepare_octets_eq_ok_iff.mp hprepare) (not_misderives hdigest),
        List.drop_of_length_le hlength, List.append_nil]

end KeyChangeColumn

/-- Two bodies are the same, or differ in the octets of a key alone. The key is masked
with a digest and has no rules. -/
inductive ObjectBody.Alike : ObjectBody → ObjectBody → Prop
  /-- The bodies are the same. -/
  | same (b : ObjectBody) : Alike b b
  /-- The bodies differ in the octets of a key. -/
  | keys {kind : Kind} {column : KeyChangeColumn} (hcolumn : kind.column? = some column)
      (hdigest : column.protocol.UsesDigest) (observers : List Observer)
      (key key' : List UInt8) :
      Alike { value := .octets key, kind, rules := .empty, observers }
        { value := .octets key', kind, rules := .empty, observers }

namespace ObjectBody.Alike

variable {b b' : ObjectBody} {proposed : Value} {requester : Requester}

/-- Alike bodies judge a proposal alike at prepare. -/
theorem prepare_eq (halike : b.Alike b') :
    b'.prepare proposed requester = b.prepare proposed requester := by
  cases halike with
  | same => rfl
  | keys hcolumn => rcases Kind.eq_of_column? hcolumn with rfl | rfl <;> rfl

/-- Alike bodies judge a proposal alike at check. -/
theorem check_eq (halike : b.Alike b') : b'.check proposed = b.check proposed := by
  cases halike <;> rfl

/-- Alike bodies judge a proposal of nobody in particular alike. -/
theorem propose_eq (halike : b.Alike b') : b'.propose proposed = b.propose proposed := by
  rw [propose, propose, halike.prepare_eq, halike.check_eq]

/-- Alike bodies read alike. -/
theorem read_eq (halike : b.Alike b') : b'.read = b.read := by
  cases halike with
  | same => rfl
  | keys hcolumn => rcases Kind.eq_of_column? hcolumn with rfl | rfl <;> rfl

/-- Alike bodies fail alike at the commit of a short proposal, or report alike and
stay alike. -/
theorem commit (halike : b.Alike b')
    (hshort : ∀ column ∈ b.kind.column?, column.IsShort proposed) :
    (∃ failure, b.kind.commit b.value proposed = .error failure ∧
        b'.kind.commit b'.value proposed = .error failure) ∨
      ∃ c c', b.kind.commit b.value proposed = .ok c ∧
        b'.kind.commit b'.value proposed = .ok c' ∧ c'.reported = c.reported ∧
        Alike { b with value := c.stored } { b' with value := c'.stored } := by
  cases halike with
  | same =>
    cases hcommit : b.kind.commit b.value proposed with
    | error failure => exact .inl ⟨failure, rfl, rfl⟩
    | ok c => exact .inr ⟨c, c, rfl, rfl, rfl, .same _⟩
  | keys hcolumn hdigest observers key key' =>
    rw [Kind.commit_of_column? hcolumn, Kind.commit_of_column? hcolumn]
    rcases KeyChangeColumn.commit_of_isShort hdigest (hshort _ hcolumn) with
      ⟨failure, hfailure⟩ | ⟨reported, hreported⟩
    · exact .inl ⟨failure, hfailure key, hfailure key'⟩
    · obtain ⟨new, hnew⟩ := hreported key
      obtain ⟨new', hnew'⟩ := hreported key'
      exact .inr ⟨_, _, hnew, hnew', rfl, .keys hcolumn hdigest observers new new'⟩

end ObjectBody.Alike

end SnmpSet
