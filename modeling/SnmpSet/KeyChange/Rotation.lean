import SnmpSet.KeyChange.Protocol
import SnmpSet.Word

/-!
# Changing a key

A manager sends a random part as long as a key, followed by a delta. The agent
applies both to the old key; the manager gets the delta by masking the new key
with the same chain.

The length of the shortest permitted value is computed as a machine word. For a
key length of `2 ^ 63` or more there is no such word, and no value is judged.
-/

namespace SnmpSet

/-- The outcome of a key change. -/
structure RotatedKey where
  key : List UInt8
  /-- The random part, followed by what the new key has beyond one key length. -/
  reported : List UInt8
  deriving DecidableEq

/-- Why a key-change value cannot be applied. -/
inductive KeyChangeError where
  /-- The value is shorter than twice the key length. -/
  | tooShort (length : Nat) (keyLength : UInt64)
  /-- Twice the key length does not fit in a machine word. -/
  | overflow (keyLength : UInt64)
  deriving DecidableEq

/-- The wording of the error for a value that is too short. -/
def keyChangeTooShort (length : Nat) (keyLength : UInt64) : String :=
  String.join
    ["key change of ", toString length, " bytes is shorter than twice the key length ",
      toString keyLength]

namespace KeyProtocol

/-- Tests that a value of this length can hold a random part and a delta. -/
def testLength (length : Nat) (keyLength : UInt64) : Except KeyChangeError Unit :=
  match Word.mul? 2 keyLength with
  | none => .error (.overflow keyLength)
  | some least => if length < least.toNat then .error (.tooShort length keyLength) else .ok ()

/-- Applies a key-change value to an old key. -/
def rotate (p : KeyProtocol) (oldKey keyChange : List UInt8) (keyLength : UInt64) :
    Except KeyChangeError RotatedKey :=
  match testLength keyChange.length keyLength with
  | .error e => .error e
  | .ok () =>
    let random := keyChange.take keyLength.toNat
    let delta := keyChange.drop keyLength.toNat
    let newKey := p.applyDelta oldKey delta random
    .ok { key := newKey, reported := random ++ newKey.drop keyLength.toNat }

/-- The key-change value that moves from an old key to a new one. -/
def keyChangeFor (p : KeyProtocol) (oldKey newKey random : List UInt8) : List UInt8 :=
  random ++ p.applyDelta oldKey newKey random

/-- Applies key-change values one after another, each to the key that the last
successful one left. -/
def rotations (p : KeyProtocol) (keyLength : UInt64) :
    (oldKey : List UInt8) → List (List UInt8) → List (Except KeyChangeError RotatedKey)
  | _, [] => []
  | oldKey, keyChange :: rest =>
    match p.rotate oldKey keyChange keyLength with
    | .ok rotation => .ok rotation :: rotations p keyLength rotation.key rest
    | .error e => .error e :: rotations p keyLength oldKey rest

end KeyProtocol

end SnmpSet
