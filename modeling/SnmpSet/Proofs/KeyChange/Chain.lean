import SnmpSet.Proofs.KeyChange.Coding

/-!
# The derived key octet by octet

The old key starts a chain of links, each the digest of the link before it followed by the
random part. The octet at a position of a derived key is the octet of the delta there,
masked with one octet of one link: the quotient of the position by the length of a digest
says which link, and the remainder says which of its octets.
-/

namespace SnmpSet.Digest

variable (d : Digest) (oldKey delta random : List UInt8) {position : Nat} {octet : UInt8}

/-- The links of the chain that masks with an old key and a random part. The old key itself
is the link before the first. -/
def link (oldKey random : List UInt8) : Nat → List UInt8
  | 0 => oldKey
  | j + 1 => d.hash (link oldKey random j ++ random)

/-- The links after the first make up the chain that starts there. -/
theorem link_link (j : Nat) :
    d.link (d.link oldKey random 1) random j = d.link oldKey random (j + 1) := by
  induction j with
  | zero => rfl
  | succ j ih => rw [link, ih, ← link]

/-- Every link but the old key is as long as a digest. -/
theorem length_link_succ (j : Nat) : (d.link oldKey random (j + 1)).length = d.outputSize :=
  d.length_hash _

/-- The first link masks the first piece of a delta, and the chain that starts with this
link masks the rest. -/
theorem getElem?_applyDelta_eq (position : Nat) :
    (d.applyDelta oldKey delta random)[position]? =
      if position < min d.outputSize delta.length then
        (List.zipWith (· ^^^ ·) (delta.take d.outputSize) (d.link oldKey random 1))[position]?
      else
        (d.applyDelta (d.link oldKey random 1) (delta.drop d.outputSize)
          random)[position - min d.outputSize delta.length]? := by
  have hpiece : (List.zipWith (· ^^^ ·) (delta.take d.outputSize)
      (d.link oldKey random 1)).length = min d.outputSize delta.length := by
    rw [List.length_zipWith, List.length_take, length_link_succ]
    omega
  rw [← hpiece, ← List.getElem?_append, d.applyDelta_eq]
  rfl

/-- The octet of a derived key at a position is the octet of the delta there, masked with
the octet that the chain has for this position. -/
theorem exists_mask_of_getElem? (hoctet : delta[position]? = some octet) :
    ∃ mask, (d.link oldKey random (position / d.outputSize + 1))[position % d.outputSize]? =
        some mask ∧
      (d.applyDelta oldKey delta random)[position]? = some (octet ^^^ mask) := by
  induction position using Nat.strongRecOn generalizing oldKey delta with
  | ind position ih =>
    have hpositive := d.outputSize_pos
    obtain ⟨hinside, -⟩ := List.getElem?_eq_some_iff.mp hoctet
    rw [getElem?_applyDelta_eq]
    by_cases hfirst : position < d.outputSize
    · -- the first piece: the first link has an octet for it
      have hmask : position < (d.link oldKey random 1).length := by
        rw [length_link_succ]
        exact hfirst
      refine ⟨(d.link oldKey random 1)[position], ?_, ?_⟩
      · rw [Nat.div_eq_of_lt hfirst, Nat.mod_eq_of_lt hfirst]
        exact List.getElem?_eq_getElem hmask
      · rw [if_pos (by omega), List.getElem?_zipWith_eq_some]
        refine ⟨octet, (d.link oldKey random 1)[position], ?_, List.getElem?_eq_getElem hmask, rfl⟩
        rw [List.getElem?_take, if_pos hfirst, hoctet]
    · -- a later piece: its place in the rest is one digest nearer to the start
      have hlater : d.outputSize ≤ position := Nat.not_lt.mp hfirst
      have hrest : (delta.drop d.outputSize)[position - d.outputSize]? = some octet := by
        rw [List.getElem?_drop, Nat.add_sub_cancel' hlater, hoctet]
      obtain ⟨mask, hmask, hderived⟩ :=
        ih (position - d.outputSize) (by omega) (d.link oldKey random 1) _ hrest
      refine ⟨mask, ?_, ?_⟩
      · rw [Nat.div_eq_sub_div hpositive hlater, Nat.mod_eq_sub_mod hlater, ← link_link]
        exact hmask
      · rw [if_neg (by omega), Nat.min_eq_left (by omega)]
        exact hderived

/-- The first octets of a derived key are derived from the first octets of the delta. -/
theorem take_applyDelta (count : Nat) :
    (d.applyDelta oldKey delta random).take count =
      d.applyDelta oldKey (delta.take count) random := by
  apply List.ext_getElem?
  intro position
  rw [List.getElem?_take]
  by_cases hinside : position < min count delta.length
  · have hoctet : delta[position]? = some delta[position] :=
      List.getElem?_eq_getElem (by omega)
    have hkept : (delta.take count)[position]? = some delta[position] := by
      rw [List.getElem?_take, if_pos (by omega), hoctet]
    obtain ⟨mask, hmask, hderived⟩ := d.exists_mask_of_getElem? oldKey delta random hoctet
    obtain ⟨mask', hmask', hderived'⟩ := d.exists_mask_of_getElem? oldKey _ random hkept
    obtain rfl : mask = mask' := Option.some.inj (hmask.symm.trans hmask')
    rw [if_pos (by omega), hderived, hderived']
  · have hpast : (d.applyDelta oldKey (delta.take count) random)[position]? = none := by
      apply List.getElem?_eq_none
      rw [d.length_applyDelta, List.length_take]
      omega
    rw [hpast]
    split
    · apply List.getElem?_eq_none
      rw [d.length_applyDelta]
      omega
    · rfl

/-- A derived key is as long as its delta. Each of its octets is the octet of the delta at
the same position, masked with an octet of the chain: with the link that is one more than
the quotient of the position by the length of a digest, at the remainder. So its first
octets hang on the first octets of the delta alone. -/
theorem applyDelta_masks_octets (d : Digest) (oldKey delta random : List UInt8) :
    (d.applyDelta oldKey delta random).length = delta.length ∧
    (∀ position octet, delta[position]? = some octet →
      ∃ mask, (d.link oldKey random (position / d.outputSize + 1))[position % d.outputSize]? =
          some mask ∧
        (d.applyDelta oldKey delta random)[position]? = some (octet ^^^ mask)) ∧
    ∀ delta' count, delta'.take count = delta.take count →
      (d.applyDelta oldKey delta' random).take count =
        (d.applyDelta oldKey delta random).take count := by
  refine ⟨d.length_applyDelta .., fun position octet hoctet => ?_, fun delta' count hsame => ?_⟩
  · exact d.exists_mask_of_getElem? oldKey delta random hoctet
  · rw [take_applyDelta, take_applyDelta, hsame]

/-- A delta of five octets and a digest of two: the last octet is masked with the first of
the third link. An old key of one octet starts the chain. Another last octet of the delta
leaves the four octets before it as they are. -/
theorem sumAndCount_masks_octets :
    KeyProtocol.sumAndCount.link [9] [7, 8] 3 = [61, 4] ∧
    KeyProtocol.sumAndCount.applyDelta [9] [1, 2, 3, 4, 5] [7, 8] = [25, 1, 41, 0, 56] ∧
    (∃ mask, (KeyProtocol.sumAndCount.link [9] [7, 8] 3)[0]? = some mask ∧
      (KeyProtocol.sumAndCount.applyDelta [9] [1, 2, 3, 4, 5] [7, 8])[4]? = some (5 ^^^ mask)) ∧
    (KeyProtocol.sumAndCount.applyDelta [9] [1, 2, 3, 4, 6] [7, 8]).take 4 =
      (KeyProtocol.sumAndCount.applyDelta [9] [1, 2, 3, 4, 5] [7, 8]).take 4 := by
  obtain ⟨-, hmasks, hfirst⟩ :=
    applyDelta_masks_octets KeyProtocol.sumAndCount [9] [1, 2, 3, 4, 5] [7, 8]
  exact ⟨by decide, by decide, hmasks 4 5 rfl, hfirst [1, 2, 3, 4, 6] 4 rfl⟩

end SnmpSet.Digest
