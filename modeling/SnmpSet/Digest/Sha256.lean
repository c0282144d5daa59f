import SnmpSet.Digest.Sha2

/-!
# SHA-224 and SHA-256

The SHA-2 digests over 32-bit words.
-/

namespace SnmpSet.Sha2

/-- A word rotated to the right. -/
def rotateRight32 (x : UInt32) (n : UInt32) : UInt32 := (x >>> n) ||| (x <<< (32 - n))

/-- The first 32 bits of the fractional parts of the cube roots of the first
64 primes. -/
def roundConstants32 : List UInt32 :=
  [0x428a2f98, 0x71374491, 0xb5c0fbcf, 0xe9b5dba5, 0x3956c25b, 0x59f111f1,
   0x923f82a4, 0xab1c5ed5, 0xd807aa98, 0x12835b01, 0x243185be, 0x550c7dc3,
   0x72be5d74, 0x80deb1fe, 0x9bdc06a7, 0xc19bf174, 0xe49b69c1, 0xefbe4786,
   0x0fc19dc6, 0x240ca1cc, 0x2de92c6f, 0x4a7484aa, 0x5cb0a9dc, 0x76f988da,
   0x983e5152, 0xa831c66d, 0xb00327c8, 0xbf597fc7, 0xc6e00bf3, 0xd5a79147,
   0x06ca6351, 0x14292967, 0x27b70a85, 0x2e1b2138, 0x4d2c6dfc, 0x53380d13,
   0x650a7354, 0x766a0abb, 0x81c2c92e, 0x92722c85, 0xa2bfe8a1, 0xa81a664b,
   0xc24b8b70, 0xc76c51a3, 0xd192e819, 0xd6990624, 0xf40e3585, 0x106aa070,
   0x19a4c116, 0x1e376c08, 0x2748774c, 0x34b0bcb5, 0x391c0cb3, 0x4ed8aa4a,
   0x5b9cca4f, 0x682e6ff3, 0x748f82ee, 0x78a5636f, 0x84c87814, 0x8cc70208,
   0x90befffa, 0xa4506ceb, 0xbef9a3f7, 0xc67178f2]

/-- The rotations, shifts and constants of 32-bit words. -/
def words32 : WordSize UInt32 where
  octets := 4
  roundConstants := roundConstants32
  bigSigma0 x := rotateRight32 x 2 ^^^ rotateRight32 x 13 ^^^ rotateRight32 x 22
  bigSigma1 x := rotateRight32 x 6 ^^^ rotateRight32 x 11 ^^^ rotateRight32 x 25
  smallSigma0 x := rotateRight32 x 7 ^^^ rotateRight32 x 18 ^^^ (x >>> 3)
  smallSigma1 x := rotateRight32 x 17 ^^^ rotateRight32 x 19 ^^^ (x >>> 10)
  ofOctets octets := octets.foldl (fun w b => (w <<< 8) ||| b.toUInt32) 0
  toOctets w := [(w >>> 24).toUInt8, (w >>> 16).toUInt8, (w >>> 8).toUInt8, w.toUInt8]
  length_toOctets _ := rfl

/-- The second 32 bits of the fractional parts of the square roots of the ninth to
the sixteenth prime. -/
def initial224 : State UInt32 :=
  ⟨0xc1059ed8, 0x367cd507, 0x3070dd17, 0xf70e5939, 0xffc00b31, 0x68581511,
   0x64f98fa7, 0xbefa4fa4⟩

/-- The SHA-224 digest. -/
def sha224 : Digest := digest words32 initial224 28 (by decide) (by decide) (by decide)

/-- The first 32 bits of the fractional parts of the square roots of the first eight
primes. -/
def initial256 : State UInt32 :=
  ⟨0x6a09e667, 0xbb67ae85, 0x3c6ef372, 0xa54ff53a, 0x510e527f, 0x9b05688c,
   0x1f83d9ab, 0x5be0cd19⟩

/-- The SHA-256 digest. -/
def sha256 : Digest := digest words32 initial256 32 (by decide) (by decide) (by decide)

end SnmpSet.Sha2
