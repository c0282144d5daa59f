/-!
# Digests

A digest maps octets of any length to octets of one fixed, positive length. Its
results are arrays, which take up less than half of what a machine word can
address.
-/

namespace SnmpSet

/-- A function from octets to octets whose results all have one length. -/
structure Digest where
  /-- The length of every result. -/
  outputSize : Nat
  hash : List UInt8 → List UInt8
  outputSize_pos : 0 < outputSize
  outputSize_lt : 2 * outputSize < UInt64.size
  length_hash : ∀ message, (hash message).length = outputSize

/-- Cuts a list into pieces of one length, the last of which may be shorter.
`fuel` bounds the number of pieces. -/
def chunksUpTo {α : Type} (size : Nat) : (fuel : Nat) → List α → List (List α)
  | 0, _ => []
  | _, [] => []
  | fuel + 1, x :: xs =>
    (x :: xs).take size :: chunksUpTo size fuel ((x :: xs).drop size)

/-- Cuts a list into pieces of one positive length, the last of which may be shorter. -/
def chunks {α : Type} (size : Nat) (xs : List α) : List (List α) := chunksUpTo size xs.length xs

end SnmpSet
