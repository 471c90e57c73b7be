import Retargeting.Compact
import Retargeting.Digest.Sha256

/- Block headers and their names. A header is eighty bytes on the wire, integers
   little-endian; its hash, the digest of the digest of those bytes, is how other
   headers refer to it. A header that has a place in a chain carries its height
   beside it. -/
namespace Retargeting

structure Header where
  version : Int32
  /-- The hash of the header before this one. -/
  parent : Digest
  merkleRoot : Digest
  /-- Seconds since the start of 1970. -/
  time : UInt32
  /-- The target that the block declares. -/
  bits : Compact
  nonce : UInt32
  deriving DecidableEq

namespace Header

def wireSize : Nat := 80

/-- The wire form. -/
def bytes (h : Header) : List UInt8 :=
  Bytes.littleEndian 4 h.version.toUInt32.toNat ++ h.parent.bytes ++ h.merkleRoot.bytes
    ++ Bytes.littleEndian 4 h.time.toNat ++ Bytes.littleEndian 4 h.bits.word.toNat
    ++ Bytes.littleEndian 4 h.nonce.toNat

theorem length_bytes (h : Header) : h.bytes.length = wireSize := by
  simp [bytes, wireSize, Bytes.littleEndian_length, h.parent.length_bytes,
    h.merkleRoot.length_bytes]

/-- The name of the header: two rounds of SHA-256 over the wire form. -/
def hash (h : Header) : Digest := Sha256.digest (Sha256.digest h.bytes).bytes

end Header

/-- A header with its height in a chain. -/
structure Placed where
  header : Header
  height : UInt32
  deriving DecidableEq

namespace Placed

def hash (p : Placed) : Digest := p.header.hash

def time (p : Placed) : UInt32 := p.header.time

/-- The target that the header declares. -/
def bits (p : Placed) : Compact := p.header.bits

/-- One height up. Heights are 32-bit words and the sum is checked: the last height has
    none above it. -/
def heightAbove? (p : Placed) : Option UInt32 :=
  if p.height = 0xffffffff then none else some (p.height + 1)

theorem heightAbove?_eq_some_iff {p : Placed} {height : UInt32} :
    p.heightAbove? = some height ↔ p.height.toNat + 1 = height.toNat := by
  have hp := p.height.toNat_lt
  have hlt := height.toNat_lt
  unfold heightAbove?
  split
  · next hlast => simp [hlast]; omega
  · next hlast =>
    have hne : p.height.toNat ≠ 0xffffffff := fun h => hlast (UInt32.toNat_inj.mp h)
    have hone : (1 : UInt32).toNat = 1 := rfl
    rw [Option.some.injEq, ← UInt32.toNat_inj, UInt32.toNat_add, hone,
      Nat.mod_eq_of_lt (by omega)]

end Placed

end Retargeting
