import SnmpSet.Digest.Basic

/-!
# The SHA-2 construction

The members of the family share one compression function and differ in their
word size, constants, initial state and result length.
-/

namespace SnmpSet.Sha2

/-- Eight words of state. -/
structure State (W : Type) where
  a : W
  b : W
  c : W
  d : W
  e : W
  f : W
  g : W
  h : W

/-- What the members of one word size have in common. -/
structure WordSize (W : Type) where
  /-- Octets in a word. -/
  octets : Nat
  /-- One constant for each round of the compression. -/
  roundConstants : List W
  bigSigma0 : W → W
  bigSigma1 : W → W
  smallSigma0 : W → W
  smallSigma1 : W → W
  /-- The word that octets spell, most significant first. -/
  ofOctets : List UInt8 → W
  /-- The octets of a word, most significant first. -/
  toOctets : W → List UInt8
  length_toOctets : ∀ w, (toOctets w).length = octets

variable {W : Type} [Add W] [AndOp W] [XorOp W] [Complement W] [OfNat W 0]

/-- The sum of two states, word by word. -/
def State.add (s t : State W) : State W :=
  ⟨s.a + t.a, s.b + t.b, s.c + t.c, s.d + t.d, s.e + t.e, s.f + t.f, s.g + t.g, s.h + t.h⟩

/-- One round. The window holds this round's word of the message schedule and
the fifteen after it. -/
def round (size : WordSize W) (step : State W × List W) (constant : W) : State W × List W :=
  let (s, window) := step
  let word := window.headD 0
  let choice := (s.e &&& s.f) ^^^ (~~~s.e &&& s.g)
  let majority := (s.a &&& s.b) ^^^ (s.a &&& s.c) ^^^ (s.b &&& s.c)
  let t1 := s.h + size.bigSigma1 s.e + choice + constant + word
  let t2 := size.bigSigma0 s.a + majority
  let next := size.smallSigma1 (window.getD 14 0) + window.getD 9 0 +
    size.smallSigma0 (window.getD 1 0) + word
  (⟨t1 + t2, s.a, s.b, s.c, s.d + t1, s.e, s.f, s.g⟩, window.tail ++ [next])

/-- Mixes one block of the message into the state. -/
def compress (size : WordSize W) (s : State W) (block : List UInt8) : State W :=
  let words := (chunks size.octets block).map size.ofOctets
  s.add (size.roundConstants.foldl (round size) (s, words)).1

/-- A number as octets, most significant first. -/
def bigEndian : (octets n : Nat) → List UInt8
  | 0, _ => []
  | octets + 1, n => bigEndian octets (n / 256) ++ [UInt8.ofNat n]

/-- The message with its padding: a one bit, zero bits, and the length in bits in
the last two words of a block. -/
def pad (size : WordSize W) (message : List UInt8) : List UInt8 :=
  let block := 16 * size.octets
  let used := message.length + 1 + 2 * size.octets
  message ++ 0x80 :: List.replicate ((block - used % block) % block) 0 ++
    bigEndian (2 * size.octets) (8 * message.length)

/-- The octets of a state. -/
def State.octets (size : WordSize W) (s : State W) : List UInt8 :=
  size.toOctets s.a ++ size.toOctets s.b ++ size.toOctets s.c ++ size.toOctets s.d ++
    size.toOctets s.e ++ size.toOctets s.f ++ size.toOctets s.g ++ size.toOctets s.h

/-- The state after a whole message. -/
def run (size : WordSize W) (initial : State W) (message : List UInt8) : State W :=
  (chunks (16 * size.octets) (pad size message)).foldl (compress size) initial

omit [Add W] [AndOp W] [XorOp W] [Complement W] [OfNat W 0] in
theorem State.length_octets (size : WordSize W) (s : State W) :
    (s.octets size).length = 8 * size.octets := by
  simp only [State.octets, List.length_append, size.length_toOctets]
  omega

/-- A member of the family: an initial state, and a result of the first octets
of the final state. -/
def digest (size : WordSize W) (initial : State W) (outputSize : Nat) (hpos : 0 < outputSize)
    (hlt : 2 * outputSize < UInt64.size) (hle : outputSize ≤ 8 * size.octets) : Digest where
  outputSize := outputSize
  hash message := ((run size initial message).octets size).take outputSize
  outputSize_pos := hpos
  outputSize_lt := hlt
  length_hash message := by
    rw [List.length_take, State.length_octets]
    omega

end SnmpSet.Sha2
