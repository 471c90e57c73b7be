import Retargeting.Bytes
import Retargeting.Digest

/- SHA-256 on byte strings. The message is padded to whole 64-byte blocks with a
   one bit, zeros and its length in bits; each block updates eight working
   words through sixty-four rounds; the final words, big-endian, are the
   digest. The message schedule is a sliding window over its last sixteen
   words, so a round needs no index into what came before. -/
namespace Retargeting.Sha256

structure State where
  a : UInt32
  b : UInt32
  c : UInt32
  d : UInt32
  e : UInt32
  f : UInt32
  g : UInt32
  h : UInt32
  deriving DecidableEq

def State.start : State :=
  ⟨0x6a09e667, 0xbb67ae85, 0x3c6ef372, 0xa54ff53a, 0x510e527f, 0x9b05688c, 0x1f83d9ab, 0x5be0cd19⟩

def roundConstants : List UInt32 :=
  [0x428a2f98, 0x71374491, 0xb5c0fbcf, 0xe9b5dba5, 0x3956c25b, 0x59f111f1, 0x923f82a4, 0xab1c5ed5,
   0xd807aa98, 0x12835b01, 0x243185be, 0x550c7dc3, 0x72be5d74, 0x80deb1fe, 0x9bdc06a7, 0xc19bf174,
   0xe49b69c1, 0xefbe4786, 0x0fc19dc6, 0x240ca1cc, 0x2de92c6f, 0x4a7484aa, 0x5cb0a9dc, 0x76f988da,
   0x983e5152, 0xa831c66d, 0xb00327c8, 0xbf597fc7, 0xc6e00bf3, 0xd5a79147, 0x06ca6351, 0x14292967,
   0x27b70a85, 0x2e1b2138, 0x4d2c6dfc, 0x53380d13, 0x650a7354, 0x766a0abb, 0x81c2c92e, 0x92722c85,
   0xa2bfe8a1, 0xa81a664b, 0xc24b8b70, 0xc76c51a3, 0xd192e819, 0xd6990624, 0xf40e3585, 0x106aa070,
   0x19a4c116, 0x1e376c08, 0x2748774c, 0x34b0bcb5, 0x391c0cb3, 0x4ed8aa4a, 0x5b9cca4f, 0x682e6ff3,
   0x748f82ee, 0x78a5636f, 0x84c87814, 0x8cc70208, 0x90befffa, 0xa4506ceb, 0xbef9a3f7, 0xc67178f2]

/-- Rotation to the right by `n` bits, `0 < n < 32`. -/
def rotate (x n : UInt32) : UInt32 := (x >>> n) ||| (x <<< (32 - n))

def scheduleSigma0 (x : UInt32) : UInt32 := rotate x 7 ^^^ rotate x 18 ^^^ (x >>> 3)

def scheduleSigma1 (x : UInt32) : UInt32 := rotate x 17 ^^^ rotate x 19 ^^^ (x >>> 10)

def roundSigma0 (x : UInt32) : UInt32 := rotate x 2 ^^^ rotate x 13 ^^^ rotate x 22

def roundSigma1 (x : UInt32) : UInt32 := rotate x 6 ^^^ rotate x 11 ^^^ rotate x 25

/-- The bits of `y` where `x` has ones and of `z` where it has zeros. -/
def choose (x y z : UInt32) : UInt32 := (x &&& y) ^^^ (~~~x &&& z)

/-- The bit that two of the three words agree on. -/
def majority (x y z : UInt32) : UInt32 := (x &&& y) ^^^ (x &&& z) ^^^ (y &&& z)

/-- One round; `kw` is the round's constant plus its schedule word. -/
def State.round (s : State) (kw : UInt32) : State :=
  let t := s.h + roundSigma1 s.e + choose s.e s.f s.g + kw
  ⟨t + roundSigma0 s.a + majority s.a s.b s.c, s.a, s.b, s.c, s.d + t, s.e, s.f, s.g⟩

/-- The schedule word that follows a window, oldest word first. -/
def nextWord (w : UInt32) (rest : List UInt32) : UInt32 :=
  scheduleSigma1 (rest.getD 13 0) + rest.getD 8 0 + scheduleSigma0 (rest.getD 0 0) + w

/-- The rounds of one block over the sliding window of the schedule. -/
def rounds : List UInt32 → List UInt32 → State → State
  | k :: ks, w :: ws, s => rounds ks (ws ++ [nextWord w ws]) (s.round (k + w))
  | _, _, s => s

def State.add (s t : State) : State :=
  ⟨s.a + t.a, s.b + t.b, s.c + t.c, s.d + t.d, s.e + t.e, s.f + t.f, s.g + t.g, s.h + t.h⟩

def State.absorb (s : State) (block : List UInt32) : State :=
  s.add (rounds roundConstants block s)

/-- Big-endian words of a byte string whose length is a multiple of four. -/
def wordsOf : List UInt8 → List UInt32
  | a :: b :: c :: d :: rest =>
    ((a.toUInt32 <<< 24) ||| (b.toUInt32 <<< 16) ||| (c.toUInt32 <<< 8) ||| d.toUInt32)
      :: wordsOf rest
  | _ => []

/-- The message with a one bit, zeros and its length in bits behind it. -/
def pad (m : List UInt8) : List UInt8 :=
  m ++ 0x80 :: List.replicate ((119 - m.length % 64) % 64) 0 ++ Bytes.bigEndian 8 (8 * m.length)

/-- The words after as many whole blocks as `n` says. -/
def absorbBlocks : Nat → State → List UInt32 → State
  | 0, s, _ => s
  | n + 1, s, ws => absorbBlocks n (s.absorb (ws.take 16)) (ws.drop 16)

def State.bytes (s : State) : List UInt8 :=
  [s.a, s.b, s.c, s.d, s.e, s.f, s.g, s.h].flatMap fun w => Bytes.bigEndian 4 w.toNat

theorem State.length_bytes (s : State) : s.bytes.length = 32 := by
  simp [State.bytes, Bytes.bigEndian_length]

def digest (m : List UInt8) : Digest :=
  let words := wordsOf (pad m)
  let s := absorbBlocks (words.length / 16) State.start words
  ⟨s.bytes, s.length_bytes⟩

end Retargeting.Sha256
