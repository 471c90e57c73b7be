import Mathlib.Algebra.Order.Ring.Nat
import Retargeting.Proofs.Encoding
import Retargeting.Rules.Window

/- The words that declare a target. A length byte opens a window of three bytes, and
   a word declares a target when it is the encoding of what its own window shows of
   that target. So one target has a declaration for every length whose window happens
   to show a number of that very length, and never two for one length; the longest of
   them is the encoding of the target itself, and the shorter ones stand for less. -/
namespace Retargeting.Compact

/-! The window of a length byte. -/

theorem testBit_precision (c : Compact) (i : Nat) :
    c.precision.testBit i = (decide (8 * (c.size - 3) ≤ i) && decide (i < 8 * c.size)) := by
  unfold precision
  rw [show 0xffffff = 2 ^ 24 - 1 from rfl]
  split
  · rw [Nat.testBit_shiftLeft, Nat.testBit_two_pow_sub_one, Bool.eq_iff_iff]
    simp only [Bool.and_eq_true, decide_eq_true_eq]
    omega
  · rw [Nat.testBit_shiftRight, Nat.testBit_two_pow_sub_one, Bool.eq_iff_iff]
    simp only [Bool.and_eq_true, decide_eq_true_eq]
    omega

/-- What a window shows of a target: the bytes above it are cut off, those below cleared. -/
theorem and_precision (n : Nat) (c : Compact) :
    n &&& c.precision = truncate c.size (n % 2 ^ (8 * c.size)) := by
  apply Nat.eq_of_testBit_eq
  intro i
  unfold truncate
  rw [Nat.testBit_and, testBit_precision, Nat.testBit_mul_two_pow, Nat.testBit_div_two_pow,
    Nat.testBit_mod_two_pow]
  by_cases h : 8 * (c.size - 3) ≤ i
  · rw [Nat.sub_add_cancel h]
    simp [h, Bool.and_comm]
  · simp [h]

theorem and_precision_lt (n : Nat) (c : Compact) : n &&& c.precision < 2 ^ (8 * c.size) := by
  rw [and_precision]
  exact Nat.lt_of_le_of_lt (truncate_le _ _) (Nat.mod_lt _ (Nat.two_pow_pos _))

theorem precision_congr {c d : Compact} (h : c.size = d.size) : c.precision = d.precision := by
  unfold precision
  rw [h]

theorem target_ofTarget_eq_and {t : Nat} (h : t < 2 ^ 2039) :
    (ofTarget t).target = t &&& (ofTarget t).precision := by
  have hfit : t < 2 ^ (8 * byteSize t) := by
    refine Nat.lt_of_lt_of_le (lt_two_pow_byteSize t) (Nat.pow_le_pow_right (by decide) ?_)
    omega
  rw [target_ofTarget h, and_precision, size_ofTarget_of_lt h, Nat.mod_eq_of_lt hfit]

/-- No window shows more than 255 bytes, so what it shows is too long for one word only
    if that word says it has no length. -/
theorem and_precision_lt_of_size {n : Nat} {c : Compact}
    (h : (ofTarget (n &&& c.precision)).size ≠ 0) : n &&& c.precision < 2 ^ 2039 := by
  have hc := c.size_lt
  have hlt : n &&& c.precision < 2 ^ (8 * 256 - 1) :=
    Nat.lt_of_lt_of_le (and_precision_lt n c) (pow_le_pow_right₀ (by decide) (by omega))
  have hle : byteSize (n &&& c.precision) ≤ 256 := (byteSize_le_iff _ (by decide)).mpr hlt
  -- the one length that 256 bytes leave is zero
  rw [size_ofTarget] at h
  rw [show 2039 = 8 * 255 - 1 from rfl, ← byteSize_le_iff _ (by decide)]
  omega

/-! Declarations of a target. -/

/-- A word declares the target `n` if it encodes what its window shows of `n`. -/
def Declares (c : Compact) (n : Nat) : Prop := ofTarget (n &&& c.precision) = c

instance (c : Compact) (n : Nat) : Decidable (c.Declares n) :=
  inferInstanceAs (Decidable (_ = _))

/-- The declarations of a target are the canonical words for what their windows show. -/
theorem declares_iff (c : Compact) (n : Nat) :
    c.Declares n ↔ c.Canonical ∧ c.target = n &&& c.precision := by
  constructor
  · intro h
    have hfit : n &&& c.precision < 2 ^ 2039 := by
      rcases Nat.eq_zero_or_pos c.size with hz | hp
      · -- a window without bytes shows nothing
        have := and_precision_lt n c
        rw [hz] at this
        exact Nat.lt_of_lt_of_le this (pow_le_pow_right₀ (by decide) (Nat.zero_le _))
      · apply and_precision_lt_of_size
        rw [h]
        omega
    have ht := target_ofTarget_eq_and hfit
    have hcan := canonical_ofTarget hfit
    rw [h] at ht hcan
    rw [Nat.and_assoc, Nat.and_self] at ht
    exact ⟨hcan, ht⟩
  · rintro ⟨hcan, ht⟩
    unfold Declares
    rw [← ht]
    exact hcan

namespace Declares
variable {c d : Compact} {n : Nat}

theorem canonical (h : c.Declares n) : c.Canonical := ((declares_iff c n).mp h).1

theorem target_eq_and (h : c.Declares n) : c.target = n &&& c.precision :=
  ((declares_iff c n).mp h).2

theorem target_le (h : c.Declares n) : c.target ≤ n := by
  rw [h.target_eq_and]
  exact Nat.and_le_left

/-- A target has one declaration of each length at most. -/
theorem eq_of_size (hc : c.Declares n) (hd : d.Declares n) (h : c.size = d.size) : c = d := by
  rw [← hc, ← hd, precision_congr h]

/-- Of two declarations of a target the shorter stands for less. -/
theorem target_lt_iff (hc : c.Declares n) (hd : d.Declares n) :
    c.target < d.target ↔ c.size < d.size := by
  constructor
  · intro h
    apply Nat.lt_of_not_le
    intro hle
    rcases Nat.lt_or_eq_of_le hle with hlt | heq
    · have := hd.canonical.target_lt_of_size hc.canonical hlt
      omega
    · rw [hd.eq_of_size hc heq] at h
      omega
  · exact hc.canonical.target_lt_of_size hd.canonical

end Declares

theorem declares_ofTarget {n : Nat} (h : n < 2 ^ 2039) : (ofTarget n).Declares n := by
  rw [declares_iff]
  exact ⟨canonical_ofTarget h, target_ofTarget_eq_and h⟩

/-- Every other declaration of a target stands for less than its encoding does. -/
theorem Declares.target_lt_ofTarget {c : Compact} {n : Nat} (hn : n < 2 ^ 2039)
    (h : c.Declares n) (hne : c ≠ ofTarget n) : c.target < (ofTarget n).target := by
  rw [h.target_lt_iff (declares_ofTarget hn)]
  have hle : c.size ≤ (ofTarget n).size := by
    rw [← h.canonical.byteSize_target, size_ofTarget_of_lt hn]
    exact byteSize_mono h.target_le
  rcases Nat.lt_or_eq_of_le hle with hlt | heq
  · exact hlt
  · exact absurd (h.eq_of_size (declares_ofTarget hn) heq) hne

/-- What one window shows of a target, once encoded, declares the target if the length
    fits its byte and the encoding's own window shows nothing that the first one hid. -/
theorem declares_and_precision_iff (n : Nat) (c : Compact) :
    (ofTarget (n &&& c.precision)).Declares n ↔
      n &&& c.precision < 2 ^ 2039 ∧
      n &&& (ofTarget (n &&& c.precision)).precision &&& c.precision =
        n &&& (ofTarget (n &&& c.precision)).precision := by
  constructor
  · intro h
    have hsize : (ofTarget (n &&& c.precision)).size ≠ 0 := by
      rw [← h.canonical.byteSize_target]
      exact Nat.ne_of_gt (byteSize_pos _)
    have hfit := and_precision_lt_of_size hsize
    refine ⟨hfit, ?_⟩
    rw [← h.target_eq_and, target_ofTarget_eq_and hfit]
    generalize (ofTarget (n &&& c.precision)).precision = shown
    rw [Nat.and_assoc, Nat.and_comm shown, ← Nat.and_assoc, Nat.and_assoc n, Nat.and_self]
  · rintro ⟨hfit, hshow⟩
    rw [declares_iff]
    refine ⟨canonical_ofTarget hfit, ?_⟩
    rw [target_ofTarget_eq_and hfit, ← hshow]
    generalize (ofTarget (n &&& c.precision)).precision = shown
    rw [Nat.and_assoc, Nat.and_assoc, Nat.and_comm shown]

end Retargeting.Compact
