import Retargeting.Proofs.Rounding
import Retargeting.Rules

/- How near a word comes to the number that it encodes. The first bit of a number is among the
   three leading bytes, or they would be one fewer, and fifteen more bits at least follow it
   there: so what encoding drops is less than one part in `2 ^ 15` of what it keeps. That is as
   long as the length fits its byte. A longer number wraps it round, the word says a length that
   is short by 256 bytes or more, and stands for next to nothing. A schedule is sound with a
   limit of any length, so whether late blocks are given a target near the limit turns on the
   length of the limit alone. -/
namespace Retargeting.Compact

/-! What encoding drops. -/

theorem sub_truncate_lt (k t : Nat) : t - truncate k t < 2 ^ (8 * (k - 3)) := by
  have hsplit := Nat.div_add_mod' t (2 ^ (8 * (k - 3)))
  have hrest := Nat.mod_lt t (Nat.two_pow_pos (8 * (k - 3)))
  unfold truncate
  omega

theorem truncate_of_le_three {k : Nat} (hk : k ≤ 3) (t : Nat) : truncate k t = t := by
  unfold truncate
  rw [Nat.sub_eq_zero_of_le hk]
  simp

/-- A number whose length fits its byte loses less than one part in `2 ^ 15`. -/
theorem target_ofTarget_near {t : Nat} (hpos : 0 < t) (ht : t < 2 ^ 2039) :
    2 ^ 15 * (t - (ofTarget t).target) < (ofTarget t).target := by
  rw [target_ofTarget ht]
  rcases Nat.lt_or_ge 3 (byteSize t) with hlong | hshort
  · have hlow : 2 ^ (8 * (byteSize t - 1) - 1) ≤ t :=
      (lt_byteSize_iff t (by omega)).mp (by omega)
    calc 2 ^ 15 * (t - truncate (byteSize t) t)
        < 2 ^ 15 * 2 ^ (8 * (byteSize t - 3)) :=
          Nat.mul_lt_mul_of_pos_left (sub_truncate_lt _ _) (Nat.two_pow_pos _)
      _ = 2 ^ (8 * (byteSize t - 1) - 1) := by rw [← Nat.pow_add]; congr 1; omega
      _ ≤ truncate (byteSize t) t := two_pow_le_truncate (by omega) hlow
  · rw [truncate_of_le_three hshort, Nat.sub_self]
    exact hpos

/-- A longer number says a length that is short by a multiple of 256, and its three leading bytes
    stand that much further down. -/
theorem target_ofTarget_of_long {t : Nat} (ht : 2 ^ 2039 ≤ t) :
    (ofTarget t).target * 2 ^ 2024 ≤ t := by
  have hbytes : 255 < byteSize t := by
    rw [show 2039 = 8 * 255 - 1 from rfl] at ht
    exact (lt_byteSize_iff t (by decide)).mpr ht
  have hsize : (ofTarget t).size + 256 ≤ byteSize t := by
    rw [size_ofTarget]
    omega
  calc (ofTarget t).target * 2 ^ 2024
      ≤ leading t * 2 ^ (8 * ((ofTarget t).size - 3)) * 2 ^ 2024 :=
        Nat.mul_le_mul_right _ (target_ofTarget_le_leading t)
    _ = leading t * 2 ^ (8 * ((ofTarget t).size - 3) + 2024) := by
        rw [Nat.mul_assoc, ← Nat.pow_add]
    _ ≤ leading t * 2 ^ (8 * (byteSize t - 3)) := by
        apply Nat.mul_le_mul_left
        exact Nat.pow_le_pow_right (by decide) (by omega)
    _ ≤ t := leading_mul_le (by omega)

end Retargeting.Compact

namespace Retargeting.RuleSet

/-! The limit as headers declare it. -/

/-- Of all limits that a sound schedule may have, just those of fewer than 2040 bits are declared
    by a word near them: one for a target other than zero, no easier than the limit, and less
    than one part in `2 ^ 15` harder. The word of any longer limit is harder by a factor of
    `2 ^ 2024` at least. -/
theorem limitBits_near_limit_iff (r : RuleSet) :
    (0 < r.limitBits.target ∧ r.limitBits.target ≤ r.limit ∧
      2 ^ 15 * (r.limit - r.limitBits.target) < r.limitBits.target ↔ r.limit < 2 ^ 2039) ∧
    (2 ^ 2039 ≤ r.limit → r.limitBits.target * 2 ^ 2024 ≤ r.limit) := by
  refine ⟨⟨?_, fun hfit => ?_⟩, Compact.target_ofTarget_of_long⟩
  · rintro ⟨hpos, _, hnear⟩
    apply Nat.lt_of_not_le
    intro hlong
    have hfar : r.limitBits.target * 2 ^ 1 ≤ r.limit := by
      refine Nat.le_trans (Nat.mul_le_mul_left _ ?_) (Compact.target_ofTarget_of_long hlong)
      apply Nat.pow_le_pow_right <;> decide
    omega
  · have hnear := Compact.target_ofTarget_near r.limit_pos hfit
    have hle : r.limitBits.target ≤ r.limit := Compact.target_ofTarget_le r.limit
    exact ⟨Nat.lt_of_le_of_lt (Nat.zero_le _) hnear, hle, hnear⟩

/-- The shortest limit that is too long: late blocks would be given the target zero. -/
theorem limitBits_far_from_long_limit :
    ¬ ∀ r : RuleSet, 0 < r.limitBits.target ∧ r.limitBits.target ≤ r.limit ∧
      2 ^ 15 * (r.limit - r.limitBits.target) < r.limitBits.target := by
  intro h
  have hpos := (h ⟨⟨30, 1, 2 ^ 2039, true⟩, by decide +kernel⟩).1
  exact absurd hpos (by decide +kernel)

end Retargeting.RuleSet
