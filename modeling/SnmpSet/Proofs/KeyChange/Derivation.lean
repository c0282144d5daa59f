import SnmpSet.KeyChange.Protocol

/-!
# The length of a derived key

The pieces of a delta are no longer than a digest and make up the delta, so each
is masked in full. A key that a digest derives is therefore as long as the delta
it is derived from.
-/

namespace SnmpSet

section Chunks

variable {α : Type} {size fuel : Nat} {xs : List α}

/-- No piece is longer than the length to cut at. -/
theorem length_le_of_mem_chunksUpTo {piece : List α} (hpiece : piece ∈ chunksUpTo size fuel xs) :
    piece.length ≤ size := by
  induction fuel generalizing xs with
  | zero => simp [chunksUpTo] at hpiece
  | succ fuel ih =>
    cases xs with
    | nil => simp [chunksUpTo] at hpiece
    | cons x xs =>
      rw [chunksUpTo, List.mem_cons] at hpiece
      rcases hpiece with rfl | hpiece
      · rw [List.length_take]
        omega
      · exact ih hpiece

/-- With enough fuel the pieces make up the list. -/
theorem flatten_chunksUpTo (hsize : 0 < size) (hfuel : xs.length ≤ fuel) :
    (chunksUpTo size fuel xs).flatten = xs := by
  induction fuel generalizing xs with
  | zero =>
    obtain rfl : xs = [] := List.eq_nil_of_length_eq_zero (by omega)
    rfl
  | succ fuel ih =>
    cases xs with
    | nil => rfl
    | cons x xs =>
      have hrest : ((x :: xs).drop size).length ≤ fuel := by
        rw [List.length_drop]
        omega
      rw [chunksUpTo, List.flatten_cons, ih hrest, List.take_append_drop]

/-- No piece is longer than the length to cut at. -/
theorem length_le_of_mem_chunks {piece : List α} (hpiece : piece ∈ chunks size xs) :
    piece.length ≤ size :=
  length_le_of_mem_chunksUpTo hpiece

/-- The pieces make up the list. -/
theorem flatten_chunks (hsize : 0 < size) : (chunks size xs).flatten = xs :=
  flatten_chunksUpTo hsize (Nat.le_refl _)

end Chunks

namespace Digest

/-- Pieces that are no longer than a digest are masked in full. -/
theorem length_maskWithChain (d : Digest) (random link : List UInt8)
    {pieces : List (List UInt8)} (hshort : ∀ piece ∈ pieces, piece.length ≤ d.outputSize) :
    (d.maskWithChain random link pieces).length = pieces.flatten.length := by
  induction pieces generalizing link with
  | nil => rfl
  | cons piece pieces ih =>
    obtain ⟨hpiece, hpieces⟩ := List.forall_mem_cons.mp hshort
    rw [maskWithChain, List.length_append, List.length_zipWith, d.length_hash, ih _ hpieces,
      List.flatten_cons, List.length_append]
    omega

/-- A derived key is as long as the delta it is derived from. -/
@[simp] theorem length_applyDelta (d : Digest) (oldKey delta random : List UInt8) :
    (d.applyDelta oldKey delta random).length = delta.length := by
  have hshort : ∀ piece ∈ chunks d.outputSize delta, piece.length ≤ d.outputSize :=
    fun _ hpiece => length_le_of_mem_chunks hpiece
  rw [applyDelta, d.length_maskWithChain random oldKey hshort, flatten_chunks d.outputSize_pos]

end Digest

/-- The protocol masks with a digest. -/
def KeyProtocol.UsesDigest (p : KeyProtocol) : Prop := ∃ id d, p = .ofDigest id d

/-- The keys of a protocol that masks with a digest are as long as the digest. -/
@[simp] theorem KeyProtocol.toNat_keyLength_ofDigest (id : Oid) (d : Digest) :
    (ofDigest id d).keyLength.toNat = d.outputSize := by
  have hsize := d.outputSize_lt
  exact UInt64.toNat_ofNat_of_lt' (by omega)

/-- A protocol that masks with a digest derives keys as long as their deltas. -/
theorem KeyProtocol.UsesDigest.length_applyDelta {p : KeyProtocol} (hp : p.UsesDigest)
    (oldKey delta random : List UInt8) :
    (p.applyDelta oldKey delta random).length = delta.length := by
  obtain ⟨id, d, rfl⟩ := hp
  exact d.length_applyDelta oldKey delta random

end SnmpSet
