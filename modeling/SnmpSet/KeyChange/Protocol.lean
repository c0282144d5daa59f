import SnmpSet.KeyChange.Derivation
import SnmpSet.Oid.Dotted

/-!
# Authentication protocols

What a key-change column needs of a protocol: its registered identifier, the
length of its keys and the derivation of a new key from an old one.
-/

namespace SnmpSet

/-- The part of an authentication protocol that changes keys. -/
structure KeyProtocol where
  /-- The registered identifier. -/
  id : Oid
  /-- The length of a key in octets, as a machine word. -/
  keyLength : UInt64
  /-- The result of applying a transmitted delta and random part to an old key. -/
  applyDelta : (oldKey delta random : List UInt8) → List UInt8

namespace KeyProtocol

/-- The protocol that masks with a digest and has keys of the digest's length. -/
def ofDigest (id : Oid) (d : Digest) : KeyProtocol where
  id := id
  keyLength := UInt64.ofNat d.outputSize
  applyDelta := d.applyDelta

/-- A protocol whose derivation always comes back empty, so that a commit can be
seen to fail. -/
def failing (keyLength : UInt64) : KeyProtocol where
  id := ⟨[1, 3, 6, 1, 4, 1, 99999, 1]⟩
  keyLength := keyLength
  applyDelta _ _ _ := []

end KeyProtocol

end SnmpSet
