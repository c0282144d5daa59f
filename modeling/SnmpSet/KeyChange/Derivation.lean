import SnmpSet.Digest.Basic

/-!
# Deriving a key from a digest

A new key is masked with a chain of digests that starts at the old key: every
link is the digest of the link before it followed by the random part. Masking
with exclusive or is its own inverse, so one function serves both sides.
-/

namespace SnmpSet.Digest

/-- Masks pieces of a text, each with the next link of the chain after `link`. -/
def maskWithChain (d : Digest) (random : List UInt8) :
    (link : List UInt8) → List (List UInt8) → List UInt8
  | _, [] => []
  | link, piece :: pieces =>
    let next := d.hash (link ++ random)
    List.zipWith (· ^^^ ·) piece next ++ maskWithChain d random next pieces

/-- Masks a text with the chain of an old key and a random part. -/
def applyDelta (d : Digest) (oldKey delta random : List UInt8) : List UInt8 :=
  d.maskWithChain random oldKey (chunks d.outputSize delta)

end SnmpSet.Digest
