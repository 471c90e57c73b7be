import Mathlib.Algebra.Order.Ring.Nat
import Mathlib.Data.Nat.Bitwise
import Retargeting.Compact

/- What survives a round trip through one word. `byteSize` is the least number of
   bytes that leaves a target's sign bit clear, so it bounds the target from both
   sides; the word keeps the three leading bytes of that many, and everything below
   them is lost. As long as the length fits its byte, decoding an encoded target
   therefore clears its low bytes and does nothing else, and encoding once more
   changes nothing: the words that encoding writes are the canonical ones, at most
   one for each number, and they are ordered as their lengths are. -/
namespace Retargeting.Compact

/-! The length of a target in bytes. -/

theorem bitLength_le_iff (t n : Nat) : bitLength t ≤ n ↔ t < 2 ^ n := by
  unfold bitLength
  split
  · next h => subst h; simp
  · next h => exact Nat.log2_lt h

theorem byteSize_pos (t : Nat) : 0 < byteSize t := Nat.succ_pos _

/-- `k` bytes hold a target when it leaves the highest bit of the last one clear. -/
theorem byteSize_le_iff (t : Nat) {k : Nat} (hk : 0 < k) :
    byteSize t ≤ k ↔ t < 2 ^ (8 * k - 1) := by
  rw [← bitLength_le_iff]
  unfold byteSize
  omega

theorem lt_byteSize_iff (t : Nat) {k : Nat} (hk : 0 < k) :
    k < byteSize t ↔ 2 ^ (8 * k - 1) ≤ t := by
  rw [← Nat.not_le, byteSize_le_iff t hk, Nat.not_lt]

theorem lt_two_pow_byteSize (t : Nat) : t < 2 ^ (8 * byteSize t - 1) :=
  (byteSize_le_iff t (byteSize_pos t)).mp (Nat.le_refl _)

theorem byteSize_mono {s t : Nat} (h : s ≤ t) : byteSize s ≤ byteSize t :=
  (byteSize_le_iff s (byteSize_pos t)).mpr (Nat.lt_of_le_of_lt h (lt_two_pow_byteSize t))

theorem byteSize_lt_256 {t : Nat} (h : t < 2 ^ 2039) : byteSize t < 256 := by
  rw [show 2039 = 8 * 255 - 1 from rfl] at h
  exact Nat.lt_succ_of_le ((byteSize_le_iff t (by decide)).mpr h)

/-! The fields of an encoded target. -/

/-- `t` without the bytes below the three leading ones of `k`. -/
def truncate (k t : Nat) : Nat := t / 2 ^ (8 * (k - 3)) * 2 ^ (8 * (k - 3))

theorem truncate_le (k t : Nat) : truncate k t ≤ t := Nat.div_mul_le_self _ _

/-- A power of two that is a multiple of the dropped unit stays a lower bound. -/
theorem two_pow_le_truncate {k m t : Nat} (hm : 8 * (k - 3) ≤ m) (h : 2 ^ m ≤ t) :
    2 ^ m ≤ truncate k t := by
  have hsplit : 2 ^ m = 2 ^ (m - 8 * (k - 3)) * 2 ^ (8 * (k - 3)) := by
    rw [← Nat.pow_add, Nat.sub_add_cancel hm]
  unfold truncate
  rw [hsplit] at h ⊢
  exact Nat.mul_le_mul_right _ ((Nat.le_div_iff_mul_le (Nat.two_pow_pos _)).mpr h)

theorem leading_eq (t : Nat) :
    leading t = t * 2 ^ (8 * (3 - byteSize t)) / 2 ^ (8 * (byteSize t - 3)) := by
  unfold leading
  split
  · next h => rw [Nat.shiftLeft_eq, Nat.sub_eq_zero_of_le h]; simp
  · next h =>
    rw [Nat.shiftRight_eq_div_pow, Nat.sub_eq_zero_of_le (Nat.le_of_not_le h)]; simp

theorem target_eq (c : Compact) :
    c.target = c.mantissa * 2 ^ (8 * (c.size - 3)) / 2 ^ (8 * (3 - c.size)) := by
  unfold target
  split
  · next h => rw [Nat.shiftRight_eq_div_pow, Nat.sub_eq_zero_of_le h]; simp
  · next h => rw [Nat.shiftLeft_eq, Nat.sub_eq_zero_of_le (Nat.le_of_not_le h)]; simp

/-- The three leading bytes leave the sign bit clear. -/
theorem leading_lt (t : Nat) : leading t < 0x800000 := by
  have hpos := byteSize_pos t
  have ht := lt_two_pow_byteSize t
  rw [leading_eq]
  apply Nat.div_lt_of_lt_mul
  calc t * 2 ^ (8 * (3 - byteSize t))
      < 2 ^ (8 * byteSize t - 1) * 2 ^ (8 * (3 - byteSize t)) :=
        Nat.mul_lt_mul_of_pos_right ht (Nat.two_pow_pos _)
    _ = 2 ^ (8 * (byteSize t - 3)) * 2 ^ 23 := by
        rw [← Nat.pow_add, ← Nat.pow_add]; congr 1; omega

theorem word_ofTarget (t : Nat) :
    (ofTarget t).word.toNat = (byteSize t * 0x1000000 + leading t) % 0x100000000 := by
  simp [ofTarget, Nat.shiftLeft_eq]

theorem size_ofTarget (t : Nat) : (ofTarget t).size = byteSize t % 256 := by
  have := leading_lt t
  rw [size_eq, word_ofTarget]
  omega

theorem mantissa_ofTarget (t : Nat) : (ofTarget t).mantissa = leading t := by
  have := leading_lt t
  rw [mantissa_eq, word_ofTarget]
  omega

theorem size_ofTarget_of_lt {t : Nat} (h : t < 2 ^ 2039) : (ofTarget t).size = byteSize t := by
  rw [size_ofTarget, Nat.mod_eq_of_lt (byteSize_lt_256 h)]

/-- The sign is bit 23 of the word. -/
theorem sign_eq (c : Compact) : c.sign = c.word.toNat.testBit 23 := by
  have hbit : (c.word &&& signBit).toNat = (c.word.toNat.testBit 23).toNat * 2 ^ 23 := by
    rw [UInt32.toNat_and]
    exact Nat.and_two_pow c.word.toNat 23
  simp only [sign, ne_eq, ← UInt32.toNat_inj, hbit]
  cases c.word.toNat.testBit 23 <;> simp

theorem sign_ofTarget (t : Nat) : (ofTarget t).sign = false := by
  have := leading_lt t
  rw [sign_eq, word_ofTarget, Nat.testBit_eq_decide_div_mod_eq, decide_eq_false_iff_not]
  omega

/-! Decoding what was encoded, and encoding it again. -/

/-- Decoding an encoded target gives back its three leading bytes in their place. -/
theorem target_ofTarget {t : Nat} (h : t < 2 ^ 2039) :
    (ofTarget t).target = truncate (byteSize t) t := by
  unfold truncate
  rw [target_eq, size_ofTarget_of_lt h, mantissa_ofTarget, leading_eq]
  -- one of the two shifts is by nothing
  rcases Nat.le_total (byteSize t) 3 with hk | hk
  · rw [Nat.sub_eq_zero_of_le hk]
    simp [Nat.mul_div_cancel _ (Nat.two_pow_pos _)]
  · rw [Nat.sub_eq_zero_of_le hk]
    simp

/-- Decoding puts the leading bytes where the length byte says, or further down. -/
theorem target_ofTarget_le_leading (t : Nat) :
    (ofTarget t).target ≤ leading t * 2 ^ (8 * ((ofTarget t).size - 3)) := by
  rw [target_eq, mantissa_ofTarget]
  exact Nat.div_le_self _ _

theorem leading_mul_le {t : Nat} (h : 3 ≤ byteSize t) :
    leading t * 2 ^ (8 * (byteSize t - 3)) ≤ t := by
  rw [leading_eq, Nat.sub_eq_zero_of_le h, Nat.mul_zero, Nat.pow_zero, Nat.mul_one]
  exact Nat.div_mul_le_self _ _

/-- Encoding rounds downwards, also where the length does not fit its byte. -/
theorem target_ofTarget_le (t : Nat) : (ofTarget t).target ≤ t := by
  rcases Nat.lt_or_ge (byteSize t) 256 with hfit | hlong
  · have ht : t < 2 ^ 2039 := by
      rw [show 2039 = 8 * 255 - 1 from rfl, ← byteSize_le_iff t (by decide)]
      omega
    rw [target_ofTarget ht]
    exact truncate_le _ _
  · -- the byte keeps a shorter length, which puts the leading bytes further down
    have hsize : (ofTarget t).size ≤ byteSize t := by
      rw [size_ofTarget]
      exact Nat.mod_le _ _
    calc (ofTarget t).target
        ≤ leading t * 2 ^ (8 * ((ofTarget t).size - 3)) := target_ofTarget_le_leading t
      _ ≤ leading t * 2 ^ (8 * (byteSize t - 3)) := by
          apply Nat.mul_le_mul_left
          exact Nat.pow_le_pow_right (by decide) (by omega)
      _ ≤ t := leading_mul_le (by omega)

/-- Truncating a target to its own length does not shorten it: the bit that asks for
    the last byte is among the three that stay. -/
theorem byteSize_truncate (t : Nat) : byteSize (truncate (byteSize t) t) = byteSize t := by
  have hpos := byteSize_pos (truncate (byteSize t) t)
  apply Nat.le_antisymm (byteSize_mono (truncate_le _ _))
  rcases Nat.lt_or_ge 1 (byteSize t) with hlong | hshort
  · have hk : 0 < byteSize t - 1 := by omega
    have hhigh : 2 ^ (8 * (byteSize t - 1) - 1) ≤ t := (lt_byteSize_iff t hk).mp (by omega)
    have hkept := two_pow_le_truncate (k := byteSize t) (by omega) hhigh
    have hlonger := (lt_byteSize_iff _ hk).mpr hkept
    omega
  · omega

theorem leading_truncate (t : Nat) : leading (truncate (byteSize t) t) = leading t := by
  rw [leading_eq, leading_eq, byteSize_truncate]
  unfold truncate
  rcases Nat.le_total (byteSize t) 3 with hk | hk
  · rw [Nat.sub_eq_zero_of_le hk]; simp
  · rw [Nat.sub_eq_zero_of_le hk]; simp [Nat.mul_div_cancel _ (Nat.two_pow_pos _)]

/-- Encoding does not see the bytes that it drops. -/
theorem ofTarget_truncate (t : Nat) : ofTarget (truncate (byteSize t) t) = ofTarget t := by
  unfold ofTarget
  rw [byteSize_truncate, leading_truncate]

/-! Canonical words. -/

/-- A word that encoding writes for the number it stands for. -/
def Canonical (c : Compact) : Prop := ofTarget c.target = c

instance (c : Compact) : Decidable c.Canonical := inferInstanceAs (Decidable (_ = _))

theorem target_lt (c : Compact) : c.target < 2 ^ 2039 := by
  have hs := c.size_lt
  have htop : 2 ^ (23 + 8 * (c.size - 3)) ≤ 2 ^ 2039 :=
    pow_le_pow_right₀ (by decide) (by omega)
  refine Nat.lt_of_lt_of_le ?_ htop
  rw [target_eq, Nat.pow_add]
  exact Nat.lt_of_le_of_lt (Nat.div_le_self _ _)
    (Nat.mul_lt_mul_of_pos_right c.mantissa_lt (Nat.two_pow_pos _))

theorem canonical_ofTarget {t : Nat} (h : t < 2 ^ 2039) : (ofTarget t).Canonical := by
  unfold Canonical
  rw [target_ofTarget h, ofTarget_truncate]

theorem Canonical.byteSize_target {c : Compact} (h : c.Canonical) : byteSize c.target = c.size := by
  have hs := size_ofTarget_of_lt c.target_lt
  rw [h] at hs
  exact hs.symm

/-- A longer canonical word stands for a larger number. -/
theorem Canonical.target_lt_of_size {c d : Compact} (hc : c.Canonical) (hd : d.Canonical)
    (h : c.size < d.size) : c.target < d.target := by
  apply Nat.lt_of_not_le
  intro hle
  have := byteSize_mono hle
  rw [hc.byteSize_target, hd.byteSize_target] at this
  omega

end Retargeting.Compact
