import Retargeting.Proofs.Precision
import Retargeting.Proofs.Rounding

/- What a retarget does to a target. The time of a window is held within the swing, the old
   target is scaled by it and capped, the next block's window is laid over the result, and what
   it shows is encoded. None of these steps rounds up, so a retarget stays below the limit and
   below the swing-fold of the old target, whatever the times are and whatever the next block
   declares. All of them keep the order, but for the window: that cuts off the high bytes of
   a target that is longer than it. Under a declaration as long as the limit's own there are
   no such bytes, and a slower window or an easier old target never gives a harder new one. -/
namespace Retargeting

/-! The time of a window. -/

theorem countedTimespan_le (last first timespan : UInt32) :
    countedTimespan last first timespan ≤ ((timespan.toNat * swing : Nat) : Int) := by
  refine max_le (Int.ofNat_le.mpr ?_) (min_le_right _ _)
  exact Nat.le_trans (Nat.div_le_self _ _) (Nat.le_mul_of_pos_right _ (by decide))

theorem countedTimespan_mono {last first last' first' : UInt32}
    (h : elapsed last first ≤ elapsed last' first') (timespan : UInt32) :
    countedTimespan last first timespan ≤ countedTimespan last' first' timespan :=
  max_le_max_left _ (min_le_min_right _ h)

namespace RuleSet
variable {r : RuleSet} {last first last' first' : UInt32} {old old' declared : Compact}

/-! The scaled target. -/

/-- A window counts for no more than the swing-fold of its timespan. -/
theorem scaledTarget_le_swing (r : RuleSet) (last first : UInt32) (old : Compact) :
    r.scaledTarget last first old ≤ swing * old.target := by
  have hcounted : (countedTimespan last first r.schedule.timespan).toNat ≤ r.timespan * swing :=
    Int.toNat_le.mpr (countedTimespan_le last first r.schedule.timespan)
  refine Nat.le_trans (Nat.min_le_left _ _) (Nat.div_le_of_le_mul ?_)
  calc old.target * (countedTimespan last first r.schedule.timespan).toNat
      ≤ old.target * (r.timespan * swing) := Nat.mul_le_mul_left _ hcounted
    _ = r.timespan * (swing * old.target) := by
        rw [Nat.mul_comm old.target, Nat.mul_assoc]

theorem scaledTarget_mono (htime : elapsed last first ≤ elapsed last' first')
    (hold : old.target ≤ old'.target) :
    r.scaledTarget last first old ≤ r.scaledTarget last' first' old' := by
  have hcounted := Int.toNat_le_toNat (countedTimespan_mono htime r.schedule.timespan)
  exact min_le_min_right _ (Nat.div_le_div_right (Nat.mul_le_mul hold hcounted))

/-! The bounds of a retarget. -/

/-- Whatever the times are and whatever the next block declares: a retarget never sets the sign,
    and its target is neither above the limit, of any size, nor above four times the old one. -/
theorem retargeted_bounds (r : RuleSet) (last first : UInt32) (old declared : Compact) :
    (r.retargeted last first old declared).target ≤ r.limit ∧
    (r.retargeted last first old declared).target ≤ 4 * old.target ∧
    (r.retargeted last first old declared).sign = false := by
  have hscaled : (r.retargeted last first old declared).target ≤ r.scaledTarget last first old :=
    Nat.le_trans (Compact.target_ofTarget_le _) Nat.and_le_left
  refine ⟨?_, ?_, Compact.sign_ofTarget _⟩
  · exact Nat.le_trans hscaled (r.scaledTarget_le_limit last first old)
  · exact Nat.le_trans hscaled (r.scaledTarget_le_swing last first old)

/-! The order of retargets. -/

/-- A declaration as long as the limit's shows every target up to the limit from its highest
    byte on. -/
theorem and_precision_of_le_limit (hlimit : r.limit < 2 ^ 2039)
    (hroom : r.limitBits.size ≤ declared.size) {n : Nat} (hn : n ≤ r.limit) :
    n &&& declared.precision = Compact.truncate declared.size n := by
  have hsize : Compact.byteSize r.limit ≤ declared.size := by
    rw [← Compact.size_ofTarget_of_lt hlimit]
    exact hroom
  have hfit : n < 2 ^ (8 * declared.size) := by
    calc n ≤ r.limit := hn
      _ < 2 ^ (8 * Compact.byteSize r.limit - 1) := Compact.lt_two_pow_byteSize _
      _ ≤ 2 ^ (8 * declared.size) := Nat.pow_le_pow_right (by decide) (by omega)
  rw [Compact.and_precision, Nat.mod_eq_of_lt hfit]

/-- As long as the limit's length fits its byte and the next block declares no shorter one, a
    retarget keeps the order: after a window that took no less time by the signed difference,
    from an old target no harder, the new one is no harder either, as a word and as a number. -/
theorem retargeted_mono (hlimit : r.limit < 2 ^ 2039) (hroom : r.limitBits.size ≤ declared.size)
    (htime : elapsed last first ≤ elapsed last' first') (hold : old.target ≤ old'.target) :
    r.retargeted last first old declared ≤ r.retargeted last' first' old' declared ∧
    (r.retargeted last first old declared).target ≤
      (r.retargeted last' first' old' declared).target := by
  have hcap := r.scaledTarget_le_limit last first old
  have hcap' := r.scaledTarget_le_limit last' first' old'
  have hshown : r.scaledTarget last first old &&& declared.precision ≤
      r.scaledTarget last' first' old' &&& declared.precision := by
    rw [and_precision_of_le_limit hlimit hroom hcap, and_precision_of_le_limit hlimit hroom hcap']
    exact Compact.truncate_mono _ (scaledTarget_mono htime hold)
  have hfit : r.scaledTarget last' first' old' &&& declared.precision < 2 ^ 2039 :=
    Nat.lt_of_le_of_lt (Nat.le_trans Nat.and_le_left hcap') hlimit
  refine ⟨UInt32.le_iff_toNat_le.mpr (Compact.ofTarget_mono hshown hfit), ?_⟩
  exact Compact.target_le_target_ofTarget hfit
    (Nat.le_trans (Compact.target_ofTarget_le _) hshown)

/-- Times that run backwards against a window ten seconds late, and an old target of 29 bytes
    against one of 30. -/
theorem retargeted_mono_production :
    let r := ofNetwork .production
    let fast := r.retargeted 995 1000 ⟨0x1d7fffff⟩ ⟨0x1e0fffff⟩
    let slow := r.retargeted 1040 1000 ⟨0x1e008000⟩ ⟨0x1e0fffff⟩
    elapsed 995 1000 = -5 ∧ fast.word = 0x1d1ddd00 ∧ slow.word = 0x1e00aaaa ∧
    fast ≤ slow ∧ fast.target ≤ slow.target := by
  intro r fast slow
  exact ⟨by decide, by decide +kernel, by decide +kernel,
    retargeted_mono (by decide +kernel) (by decide +kernel) (by decide) (by decide +kernel)⟩

/-- A declaration of 29 bytes does not show the thirtieth byte of the easier target. -/
example : let r := ofNetwork .production
    r.retargeted 1030 1000 ⟨0x1e010000⟩ ⟨0x1d00ffff⟩ <
      r.retargeted 1030 1000 ⟨0x1d00ffff⟩ ⟨0x1d00ffff⟩ := by decide +kernel

end RuleSet

end Retargeting
