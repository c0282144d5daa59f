/-!
# Numbers that fit into words

A number has a counterpart among the words of a width if it lies in the width's
range. A word is always the counterpart of its own number. Two words have a sum
or a product if it is a word, too.
-/

namespace SnmpSet.Word

/-- The signed word of 32 bits that is equal to a number. -/
def int32? (n : Int) : Option Int32 :=
  if Int32.minValue.toInt ≤ n ∧ n ≤ Int32.maxValue.toInt then some (Int32.ofInt n) else none

/-- The unsigned word of 32 bits that is equal to a number. -/
def uint32? (n : Int) : Option UInt32 :=
  if 0 ≤ n ∧ n < UInt32.size then some (UInt32.ofNat n.toNat) else none

/-- The octet that is equal to a number. -/
def uint8? (n : Int) : Option UInt8 :=
  if 0 ≤ n ∧ n < UInt8.size then some (UInt8.ofNat n.toNat) else none

/-- The unsigned word of 64 bits that is equal to a natural number. -/
def uint64? (n : Nat) : Option UInt64 :=
  if n < UInt64.size then some (UInt64.ofNat n) else none

/-- The sum of two machine words, if it is one. -/
def add? (m n : UInt64) : Option UInt64 := uint64? (m.toNat + n.toNat)

/-- The product of two machine words, if it is one. -/
def mul? (m n : UInt64) : Option UInt64 := uint64? (m.toNat * n.toNat)

theorem int32?_toInt (n : Int32) : int32? n.toInt = some n := by
  rw [int32?, if_pos ⟨n.minValue_le_toInt, n.toInt_le⟩, Int32.ofInt_toInt]

theorem uint32?_toNat (n : UInt32) : uint32? n.toNat = some n := by
  have hn : n.toNat < UInt32.size := n.toNat_lt
  rw [uint32?, if_pos ⟨by omega, by omega⟩, Int.toNat_natCast, UInt32.ofNat_toNat]

theorem uint8?_toNat (n : UInt8) : uint8? n.toNat = some n := by
  have hn : n.toNat < UInt8.size := n.toNat_lt
  rw [uint8?, if_pos ⟨by omega, by omega⟩, Int.toNat_natCast, UInt8.ofNat_toNat]

/-- A natural number has a word just if the word's number is this one. -/
theorem uint64?_eq_some_iff {n : Nat} {k : UInt64} : uint64? n = some k ↔ k.toNat = n := by
  unfold uint64?
  constructor
  · intro hword
    split at hword
    · next hfits =>
      obtain rfl := Option.some.inj hword
      exact UInt64.toNat_ofNat_of_lt' hfits
    · cases hword
  · rintro rfl
    rw [if_pos k.toNat_lt, UInt64.ofNat_toNat]

/-- A natural number has no word just if it is past all of them. -/
theorem uint64?_eq_none_iff {n : Nat} : uint64? n = none ↔ UInt64.size ≤ n := by
  unfold uint64?
  split
  · next hfits => simp [Nat.not_le.mpr hfits]
  · next hpast => simp [Nat.not_lt.mp hpast]

end SnmpSet.Word
