/- Numbers as byte strings of a fixed width, in both byte orders. -/
namespace Retargeting.Bytes

/-- The `n` low bytes of `x`, lowest first. -/
def littleEndian : Nat → Nat → List UInt8
  | 0, _ => []
  | n + 1, x => UInt8.ofNat x :: littleEndian n (x / 256)

/-- The `n` low bytes of `x`, highest first. -/
def bigEndian (n x : Nat) : List UInt8 := (littleEndian n x).reverse

/-- The number whose bytes these are, lowest first. -/
def toNat : List UInt8 → Nat
  | [] => 0
  | b :: rest => b.toNat + 256 * toNat rest

theorem littleEndian_length (n x : Nat) : (littleEndian n x).length = n := by
  induction n generalizing x with
  | zero => rfl
  | succ n ih => simp [littleEndian, ih]

theorem bigEndian_length (n x : Nat) : (bigEndian n x).length = n := by
  simp [bigEndian, littleEndian_length]

/-- A number that fits its width is read back. -/
theorem toNat_littleEndian (n x : Nat) (h : x < 1 <<< (8 * n)) :
    toNat (littleEndian n x) = x := by
  induction n generalizing x with
  | zero => simp at h; simp [littleEndian, toNat, h]
  | succ n ih =>
    have hd : x / 256 < 1 <<< (8 * n) := by
      rw [Nat.mul_succ, Nat.shiftLeft_add] at h
      rw [Nat.shiftLeft_eq _ 8] at h
      exact Nat.div_lt_of_lt_mul (by omega)
    simp only [littleEndian, toNat, ih _ hd]
    have : (UInt8.ofNat x).toNat = x % 256 := by simp
    omega

theorem toNat_lt (bs : List UInt8) : toNat bs < 1 <<< (8 * bs.length) := by
  induction bs with
  | nil => decide
  | cons b rest ih =>
    have hb := b.toNat_lt
    rw [List.length_cons, Nat.mul_succ, Nat.shiftLeft_add, Nat.shiftLeft_eq _ 8]
    simp only [toNat]
    omega

/-- Bytes of one width are told apart by their number. -/
theorem eq_of_toNat_eq {bs cs : List UInt8} (hlen : bs.length = cs.length)
    (h : toNat bs = toNat cs) : bs = cs := by
  induction bs generalizing cs with
  | nil => exact (List.length_eq_zero_iff.mp hlen.symm).symm
  | cons b rest ih =>
    cases cs with
    | nil => cases hlen
    | cons c rest' =>
      have hb := b.toNat_lt
      have hc := c.toNat_lt
      simp only [toNat] at h
      have hhead : b = c := UInt8.toNat_inj.mp (by omega)
      have htail : rest = rest' := ih (Nat.succ.inj hlen) (by omega)
      rw [hhead, htail]

end Retargeting.Bytes
