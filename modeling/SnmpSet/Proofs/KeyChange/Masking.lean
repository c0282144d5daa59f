import SnmpSet.Proofs.KeyChange.Commit

/-!
# Masking twice

The mask of a text depends on the old key, the random part and the length of the
text alone. Masking a masked text with the same chain therefore gives the text
back, and a column that is given a manager's key-change value stores the very key
that the manager has masked.
-/

namespace SnmpSet

section Chunks

variable {α : Type} {size : Nat} {xs : List α}

/-- Any fuel that is enough cuts a list into the same pieces. -/
theorem chunksUpTo_eq_chunks (hsize : 0 < size) {fuel : Nat} (hfuel : xs.length ≤ fuel) :
    chunksUpTo size fuel xs = chunks size xs := by
  unfold chunks
  -- both sides shorten by the same pieces, whatever is left of their fuel
  suffices hany : ∀ fuel', xs.length ≤ fuel' →
      chunksUpTo size fuel xs = chunksUpTo size fuel' xs from hany _ (Nat.le_refl _)
  induction fuel generalizing xs with
  | zero =>
    obtain rfl : xs = [] := List.eq_nil_of_length_eq_zero (by omega)
    rintro (_ | fuel') - <;> rfl
  | succ fuel ih =>
    intro fuel' hfuel'
    cases xs with
    | nil => cases fuel' <;> rfl
    | cons x xs =>
      have hrest : ((x :: xs).drop size).length ≤ xs.length := by
        rw [List.length_drop, List.length_cons]
        omega
      rw [List.length_cons] at hfuel hfuel'
      obtain ⟨fuel'', rfl⟩ : ∃ fuel'', fuel' = fuel'' + 1 := ⟨fuel' - 1, by omega⟩
      rw [chunksUpTo, chunksUpTo, ih (by omega) fuel'' (by omega)]

/-- The first piece of a list is followed by the pieces of what it leaves. -/
theorem chunks_of_ne_nil (hsize : 0 < size) (hne : xs ≠ []) :
    chunks size xs = xs.take size :: chunks size (xs.drop size) := by
  cases xs with
  | nil => exact absurd rfl hne
  | cons x xs =>
    have hrest : ((x :: xs).drop size).length ≤ xs.length := by
      rw [List.length_drop, List.length_cons]
      omega
    rw [← chunksUpTo_eq_chunks hsize hrest]
    rfl

end Chunks

/-- Masking with one key stream twice changes nothing, if the stream is long enough. -/
theorem zipWith_xor_zipWith_xor {text stream : List UInt8} (hlong : text.length ≤ stream.length) :
    List.zipWith (· ^^^ ·) (List.zipWith (· ^^^ ·) text stream) stream = text := by
  induction text generalizing stream with
  | nil => rfl
  | cons octet text ih =>
    cases stream with
    | nil => simp at hlong
    | cons mask stream =>
      have hrest : text.length ≤ stream.length := by simpa using hlong
      have hoctet : octet ^^^ mask ^^^ mask = octet := by
        rw [UInt8.xor_assoc, UInt8.xor_self, UInt8.xor_zero]
      simp [hoctet, ih hrest]

namespace Digest

variable (d : Digest)

/-- The first piece of a text is masked with the first link of the chain, and the
rest with the chain that starts there. -/
theorem applyDelta_eq (link text random : List UInt8) :
    d.applyDelta link text random =
      List.zipWith (· ^^^ ·) (text.take d.outputSize) (d.hash (link ++ random)) ++
        d.applyDelta (d.hash (link ++ random)) (text.drop d.outputSize) random := by
  by_cases hempty : text = []
  · subst hempty
    simp [applyDelta, chunks, chunksUpTo, maskWithChain]
  · rw [applyDelta, chunks_of_ne_nil d.outputSize_pos hempty]
    rfl

/-- A text that is cut after its first piece is masked piece and rest apart. -/
theorem applyDelta_append (link random : List UInt8) {first rest : List UInt8}
    (hfirst : first.length ≤ d.outputSize) (hrest : first.length < d.outputSize → rest = []) :
    d.applyDelta link (first ++ rest) random =
      List.zipWith (· ^^^ ·) first (d.hash (link ++ random)) ++
        d.applyDelta (d.hash (link ++ random)) rest random := by
  have hcut : (first ++ rest).take d.outputSize = first ∧
      (first ++ rest).drop d.outputSize = rest := by
    rcases Nat.lt_or_eq_of_le hfirst with hshort | hfull
    · rw [hrest hshort, List.append_nil]
      exact ⟨List.take_of_length_le hfirst, List.drop_of_length_le hfirst⟩
    · exact ⟨List.take_left' hfull, List.drop_left' hfull⟩
  rw [d.applyDelta_eq, hcut.1, hcut.2]

/-- A masked text is unmasked by the chain that masked it. -/
theorem applyDelta_applyDelta (link text random : List UInt8) :
    d.applyDelta link (d.applyDelta link text random) random = text := by
  induction hlength : text.length using Nat.strongRecOn generalizing link text with
  | ind length ih =>
    by_cases hempty : text = []
    · subst hempty
      rfl
    have hstream : (text.take d.outputSize).length ≤ (d.hash (link ++ random)).length := by
      rw [d.length_hash]
      exact List.length_take_le _ _
    have hpiece : (List.zipWith (· ^^^ ·) (text.take d.outputSize)
        (d.hash (link ++ random))).length = min d.outputSize text.length := by
      rw [List.length_zipWith, Nat.min_eq_left hstream, List.length_take]
    have hsmaller : (text.drop d.outputSize).length < length := by
      have hpositive := d.outputSize_pos
      have hnonempty : 0 < text.length := List.length_pos_iff.mpr hempty
      rw [List.length_drop]
      omega
    -- the masked text is cut where the text was, so each piece meets its own mask again
    rw [d.applyDelta_eq link text, d.applyDelta_append, zipWith_xor_zipWith_xor hstream,
      ih _ hsmaller _ _ rfl, List.take_append_drop]
    · omega
    · intro hshort
      refine List.eq_nil_of_length_eq_zero ?_
      rw [d.length_applyDelta, List.length_drop]
      omega

end Digest

/-- A protocol that masks with a digest derives a key from what masking the key
with the same old key and random part gives. -/
theorem KeyProtocol.UsesDigest.applyDelta_applyDelta {p : KeyProtocol} (hp : p.UsesDigest)
    (oldKey key random : List UInt8) :
    p.applyDelta oldKey (p.applyDelta oldKey key random) random = key := by
  obtain ⟨id, d, rfl⟩ := hp
  exact d.applyDelta_applyDelta oldKey key random

namespace KeyChangeColumn

variable {column : KeyChangeColumn} {key random : List UInt8}
  (hdigest : column.protocol.UsesDigest) (hkey : key.length = column.protocol.keyLength.toNat)
  (hrandom : random.length = column.protocol.keyLength.toNat)
include hdigest hkey hrandom

/-- A manager's value holds a random part and a delta. -/
theorem length_keyChangeFor (oldKey : List UInt8) :
    (column.protocol.keyChangeFor oldKey key random).length =
      2 * column.protocol.keyLength.toNat := by
  rw [KeyProtocol.keyChangeFor, List.length_append, hdigest.length_applyDelta, hkey, hrandom]
  omega

/-- A manager's value passes the length test. -/
theorem tests_keyChangeFor (oldKey : List UInt8) :
    column.Tests (column.protocol.keyChangeFor oldKey key random) := by
  have hlength := length_keyChangeFor hdigest hkey hrandom oldKey
  exact KeyProtocol.testLength_eq_ok_iff.mpr ⟨hdigest.keyBounded, Nat.le_of_eq hlength.symm⟩

/-- A manager's value is prepared. -/
theorem prepare_keyChangeFor (oldKey : List UInt8) :
    column.prepare (.octets (column.protocol.keyChangeFor oldKey key random)) = .ok () :=
  prepare_octets_eq_ok_iff.mpr (tests_keyChangeFor hdigest hkey hrandom oldKey)

/-- A commit of a manager's value stores the manager's key and reports the random part. -/
theorem commit_keyChangeFor (oldKey : List UInt8) :
    column.commit (.octets oldKey) (.octets (column.protocol.keyChangeFor oldKey key random)) =
      .ok ⟨.octets key, .octets random⟩ := by
  have htests := tests_keyChangeFor hdigest hkey hrandom oldKey
  have htake : (column.protocol.keyChangeFor oldKey key random).take
      column.protocol.keyLength.toNat = random := List.take_left' hrandom
  have hdrop : (column.protocol.keyChangeFor oldKey key random).drop
      column.protocol.keyLength.toNat = column.protocol.applyDelta oldKey key random :=
    List.drop_left' hrandom
  have hderived : column.derivedKey oldKey (column.protocol.keyChangeFor oldKey key random) =
      key := by
    rw [derivedKey, htake, hdrop, hdigest.applyDelta_applyDelta]
  rw [commit_of_derived htests (not_misderives hdigest), hderived, htake,
    List.drop_of_length_le (Nat.le_of_eq hkey), List.append_nil]

end KeyChangeColumn

end SnmpSet
