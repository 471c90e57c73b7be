import Retargeting.Hex

/- A 256-bit digest: thirty-two bytes in memory order. Digests name headers, so
   they are compared and used as keys; the order is the lexicographic one of
   the bytes, and equal bytes are equal digests. -/
namespace Retargeting

/-- Thirty-two bytes, in memory order. -/
structure Digest where
  bytes : List UInt8
  length_bytes : bytes.length = 32
  deriving DecidableEq

namespace Digest

theorem eq_of_bytes {a b : Digest} (h : a.bytes = b.bytes) : a = b := by
  cases a; cases b; simp_all

/-- The digest of these bytes, if they are thirty-two. -/
def ofBytes? (bs : List UInt8) : Option Digest :=
  if h : bs.length = 32 then some ⟨bs, h⟩ else none

theorem ofBytes?_bytes (d : Digest) : ofBytes? d.bytes = some d := by
  simp [ofBytes?, d.length_bytes]

/-- The digest of thirty-two zero bytes, which names no header. -/
def zero : Digest := ⟨List.replicate 32 0, by simp⟩

/-- Sixty-four digits, bytes in memory order. -/
def hex (d : Digest) : List Char := Hex.ofBytes d.bytes

instance : Inhabited Digest := ⟨zero⟩

instance : Ord Digest := ⟨fun a b => compare a.bytes b.bytes⟩

instance : Std.TransOrd Digest where
  eq_swap {a b} := Std.OrientedOrd.eq_swap (a := a.bytes) (b := b.bytes)
  isLE_trans {a b c} h k := Std.TransOrd.isLE_trans (a := a.bytes) (b := b.bytes) (c := c.bytes) h k

instance : Std.LawfulEqOrd Digest where
  eq_of_compare {a b} h :=
    eq_of_bytes (Std.LawfulEqOrd.eq_of_compare (a := a.bytes) (b := b.bytes) h)

end Digest

end Retargeting
