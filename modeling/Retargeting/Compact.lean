import Retargeting.Hex

/- Compact targets. A 256-bit proof-of-work target travels in a header as one
   word: the high byte is the length of the number in bytes, the low 23 bits are
   its leading digits (the mantissa), and bit 23 is a sign. So a compact target
   is a floating-point number to base 256 with three digits, and `target` and
   `ofTarget` are its value and the rounding of a value downwards. Decoding
   ignores the sign; encoding never sets it. -/
namespace Retargeting

/-- A target in its one-word form. -/
structure Compact where
  word : UInt32
  deriving DecidableEq, Inhabited

namespace Compact

def signBit : UInt32 := 0x00800000

/-- The bits of the word that hold the mantissa. -/
def mantissaMask : UInt32 := 0x007fffff

/-- The length byte: how many bytes the encoded number has. -/
def size (c : Compact) : Nat := (c.word >>> 24).toNat

/-- The leading digits of the number, without the sign. -/
def mantissa (c : Compact) : Nat := (c.word &&& mantissaMask).toNat

def sign (c : Compact) : Bool := c.word &&& signBit ≠ 0

/-- The number that the word stands for: the mantissa is its first three bytes
    of `size`, and a size below three drops the mantissa's low bytes. -/
def target (c : Compact) : Nat :=
  if c.size ≤ 3 then c.mantissa >>> (8 * (3 - c.size)) else c.mantissa <<< (8 * (c.size - 3))

/-- A set sign bit counts only on a number other than zero. -/
def isNegative (c : Compact) : Bool := c.sign && c.target ≠ 0

/-- How many binary digits `t` has; zero has none. -/
def bitLength (t : Nat) : Nat := if t = 0 then 0 else t.log2 + 1

/-- The bytes of `t` with room for a sign bit in front of its highest digit. -/
def byteSize (t : Nat) : Nat := bitLength t / 8 + 1

/-- The three leading bytes of `t`, as a number of `byteSize t` bytes. -/
def leading (t : Nat) : Nat :=
  if byteSize t ≤ 3 then t <<< (8 * (3 - byteSize t)) else t >>> (8 * (byteSize t - 3))

/-- The word for `t`, rounded downwards to three bytes. The length has one byte
    of the word, so from 2040 bits on only the low byte of it is kept. -/
def ofTarget (t : Nat) : Compact := ⟨UInt32.ofNat ((byteSize t <<< 24) + leading t)⟩

instance : Ord Compact := ⟨fun a b => compare a.word b.word⟩

instance : LE Compact := ⟨fun a b => a.word ≤ b.word⟩

instance : LT Compact := ⟨fun a b => a.word < b.word⟩

instance (a b : Compact) : Decidable (a ≤ b) := inferInstanceAs (Decidable (a.word ≤ b.word))

instance (a b : Compact) : Decidable (a < b) := inferInstanceAs (Decidable (a.word < b.word))

def sorted (cs : List Compact) : List Compact := cs.mergeSort fun a b => a ≤ b

/-- The word in at least `width` digits. -/
def hex (c : Compact) (width : Nat) : List Char := Hex.padded width c.word.toNat

/-- How a compact target is shown: `0x` and eight digits. -/
def shown (c : Compact) : String := String.ofList ('0' :: 'x' :: c.hex 8)

/-! The fields as arithmetic on the word. -/

theorem size_eq (c : Compact) : c.size = c.word.toNat / 0x1000000 := by
  simp [size, UInt32.toNat_shiftRight, Nat.shiftRight_eq_div_pow]

theorem mantissa_eq (c : Compact) : c.mantissa = c.word.toNat % 0x800000 := by
  simp only [mantissa, UInt32.toNat_and]
  exact Nat.and_two_pow_sub_one_eq_mod c.word.toNat 23

theorem size_lt (c : Compact) : c.size < 256 := by
  have := c.word.toNat_lt
  rw [size_eq]; omega

theorem mantissa_lt (c : Compact) : c.mantissa < 0x800000 := by
  rw [mantissa_eq]; exact Nat.mod_lt _ (by decide)

end Compact

end Retargeting
