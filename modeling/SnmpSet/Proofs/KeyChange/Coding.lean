import SnmpSet.Proofs.KeyChange.Masking

/-!
# Coding and decoding keys

A manager codes a new key under the old key and a random part, and the agent
decodes the value that it is sent. Under one old key each of the two undoes the
other, for keys of any length from that of the protocol on. So of the values with
one random part no two are decoded to the same key.
-/

namespace SnmpSet.KeyProtocol

variable {p : KeyProtocol} {oldKey keyChange : List UInt8} {r : RotatedKey}

namespace UsesDigest

variable (hp : p.UsesDigest)
include hp

/-- A value that is long enough for a random part and a delta is decoded. -/
theorem exists_rotate_of_long (hlong : 2 * p.keyLength.toNat ≤ keyChange.length) :
    ∃ r, p.rotate oldKey keyChange p.keyLength = .ok r := by
  have htest := testLength_eq_ok_iff.mpr ⟨hp.keyBounded, hlong⟩
  rw [rotate, htest]
  exact ⟨_, rfl⟩

/-- The value that codes a key under a random part is decoded to this key. -/
theorem rotate_keyChangeFor {key random : List UInt8}
    (hrandom : random.length = p.keyLength.toNat) (hkey : p.keyLength.toNat ≤ key.length) :
    p.rotate oldKey (p.keyChangeFor oldKey key random) p.keyLength =
      .ok ⟨key, random ++ key.drop p.keyLength.toNat⟩ := by
  have hlength : (p.keyChangeFor oldKey key random).length = p.keyLength.toNat + key.length := by
    rw [keyChangeFor, List.length_append, hp.length_applyDelta, hrandom]
  have htake : (p.keyChangeFor oldKey key random).take p.keyLength.toNat = random :=
    List.take_left' hrandom
  have hdrop : (p.keyChangeFor oldKey key random).drop p.keyLength.toNat =
      p.applyDelta oldKey key random := List.drop_left' hrandom
  have hlong : 2 * p.keyLength.toNat ≤ (p.keyChangeFor oldKey key random).length := by omega
  have htest := testLength_eq_ok_iff.mpr ⟨hp.keyBounded, hlong⟩
  refine rotate_eq_ok_iff.mpr ⟨htest, ?_, ?_⟩
  · rw [htake, hdrop, hp.applyDelta_applyDelta]
  · rw [htake]

/-- A value that is decoded to a key is the one that codes this key under the value's
random part. -/
theorem keyChangeFor_of_rotate (hrotate : p.rotate oldKey keyChange p.keyLength = .ok r) :
    p.keyChangeFor oldKey r.key (keyChange.take p.keyLength.toNat) = keyChange := by
  obtain ⟨-, hkey, -⟩ := rotate_eq_ok_iff.mp hrotate
  rw [keyChangeFor, hkey, hp.applyDelta_applyDelta, List.take_append_drop]

/-- Coding and decoding undo each other. A key from one key length on that is coded under
a random part of one key length is decoded again, and the random part is reported with
the rest of the key. A value from two key lengths on is decoded to a key that is coded by
this very value under its random part. So of different values that are decoded and have
the same random part, each has a key of its own. -/
theorem rotate_inverts_keyChangeFor (oldKey : List UInt8) :
    (∀ key random, random.length = p.keyLength.toNat → p.keyLength.toNat ≤ key.length →
      p.rotate oldKey (p.keyChangeFor oldKey key random) p.keyLength =
        .ok ⟨key, random ++ key.drop p.keyLength.toNat⟩) ∧
    (∀ keyChange : List UInt8, 2 * p.keyLength.toNat ≤ keyChange.length →
      ∃ r, p.rotate oldKey keyChange p.keyLength = .ok r ∧
        p.keyChangeFor oldKey r.key (keyChange.take p.keyLength.toNat) = keyChange) ∧
    ∀ keyChange keyChange' r r', p.rotate oldKey keyChange p.keyLength = .ok r →
      p.rotate oldKey keyChange' p.keyLength = .ok r' →
      keyChange.take p.keyLength.toNat = keyChange'.take p.keyLength.toNat →
      keyChange ≠ keyChange' → r.key ≠ r'.key := by
  refine ⟨fun key random => hp.rotate_keyChangeFor, fun keyChange hlong => ?_, ?_⟩
  · obtain ⟨r, hrotate⟩ := hp.exists_rotate_of_long hlong
    exact ⟨r, hrotate, hp.keyChangeFor_of_rotate hrotate⟩
  · intro keyChange keyChange' r r' hrotate hrotate' hrandom hdiffer hsame
    refine hdiffer ?_
    calc keyChange
        = p.keyChangeFor oldKey r.key (keyChange.take p.keyLength.toNat) :=
          (hp.keyChangeFor_of_rotate hrotate).symm
      _ = p.keyChangeFor oldKey r'.key (keyChange'.take p.keyLength.toNat) := by
          rw [hsame, hrandom]
      _ = keyChange' := hp.keyChangeFor_of_rotate hrotate'

end UsesDigest

/-- A digest of two octets: the sum of all octets, and their number. -/
def sumAndCount : Digest where
  outputSize := 2
  hash message := [message.foldl (· + ·) 0, UInt8.ofNat message.length]
  outputSize_pos := by decide
  outputSize_lt := by decide
  length_hash _ := rfl

/-- A protocol that masks with this digest. -/
def sumAndCountProtocol : KeyProtocol := .ofDigest ⟨[1]⟩ sumAndCount

/-- A key of three octets, whose last piece is shorter than the digest, is decoded again.
A value with a delta of three octets is coded again. Two values that differ in their last
octet alone are decoded to different keys. -/
theorem sumAndCountProtocol_inverts :
    sumAndCountProtocol.UsesDigest ∧ sumAndCountProtocol.keyLength.toNat = 2 ∧
    sumAndCountProtocol.keyChangeFor [9] [5, 200, 6] [7, 8] = [7, 8, 29, 203, 44] ∧
    sumAndCountProtocol.rotate [9] [7, 8, 29, 203, 44] 2 =
      .ok ⟨[5, 200, 6], [7, 8, 6]⟩ ∧
    (∃ r, sumAndCountProtocol.rotate [9] [1, 2, 3, 4, 5] 2 = .ok r ∧
      sumAndCountProtocol.keyChangeFor [9] r.key [1, 2] = [1, 2, 3, 4, 5]) ∧
    ∀ r r', sumAndCountProtocol.rotate [9] [1, 2, 3, 4, 5] 2 = .ok r →
      sumAndCountProtocol.rotate [9] [1, 2, 3, 4, 6] 2 = .ok r' → r.key ≠ r'.key := by
  have hdigest : sumAndCountProtocol.UsesDigest := ⟨⟨[1]⟩, sumAndCount, rfl⟩
  obtain ⟨hdecoded, hcoded, hinjective⟩ := hdigest.rotate_inverts_keyChangeFor [9]
  have hlength : sumAndCountProtocol.keyLength.toNat = 2 := rfl
  have hcode : sumAndCountProtocol.keyChangeFor [9] [5, 200, 6] [7, 8] = [7, 8, 29, 203, 44] := by
    decide
  have hdecode := hdecoded [5, 200, 6] [7, 8] rfl (by decide)
  rw [hcode] at hdecode
  refine ⟨hdigest, hlength, hcode, hdecode, hcoded [1, 2, 3, 4, 5] (by decide), ?_⟩
  intro r r' hrotate hrotate'
  exact hinjective _ _ r r' hrotate hrotate' rfl (by decide)

end SnmpSet.KeyProtocol
