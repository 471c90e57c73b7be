import Retargeting.Proofs.Lookups
import Retargeting.Proofs.Scaling

/- What a window's pace does to the target. Seconds are told on a clock of 32 bits, and the time
   of a window is the difference of its ends on that clock, read with a sign. So a window that
   ran on time is measured right even where the clock came round inside it, and leaves the
   target as it is. A window that ran too fast counts for no less than a fourth of what was meant
   in whole seconds, and the target falls to no less than that share of itself: a quarter where
   the timespan divides by four, else less. Ends that stand in the wrong order count as such a
   window, unless they are more than half the clock apart: then their difference comes out
   positive, and the window counts for what is left of the clock. -/
namespace Retargeting

/-! The seconds between two times. -/

/-- Of the numbers that tell the way from one time to the other on the clock, up to whole rounds,
    the seconds between the two are the one with 32 signed bits. -/
theorem elapsed_eq_iff {last first : UInt32} {n : Int} :
    elapsed last first = n ↔ -0x80000000 ≤ n ∧ n < 0x80000000 ∧
      0x100000000 ∣ (last.toNat : Int) - first.toNat - n := by
  unfold elapsed
  rw [Int.bmod_def]
  split <;> omega

/-- The clock may come round once between the two. -/
theorem elapsed_of_toNat_eq {last first : UInt32} {n : Nat} (hn : n < 2 ^ 31)
    (h : last.toNat = (first.toNat + n) % 2 ^ 32) : elapsed last first = n := by
  rw [elapsed_eq_iff]
  omega

theorem elapsed_self (time : UInt32) : elapsed time time = 0 := by
  rw [elapsed_eq_iff]
  omega

theorem elapsed_of_near {last first : UInt32} (h : last < first)
    (hnear : first.toNat - last.toNat ≤ 2 ^ 31) : elapsed last first < 0 := by
  rw [UInt32.lt_iff_toNat_lt] at h
  obtain ⟨_, hhigh, hround⟩ := elapsed_eq_iff.mp (Eq.refl (elapsed last first))
  omega

/-- More than half the clock backwards is less than half of it forwards. -/
theorem elapsed_of_far {last first : UInt32} (hfar : 2 ^ 31 < first.toNat - last.toNat) :
    elapsed last first = ((2 ^ 32 - (first.toNat - last.toNat) : Nat) : Int) := by
  have hfirst := first.toNat_lt
  rw [elapsed_eq_iff]
  omega

namespace RuleSet
variable {r : RuleSet} {v : History} {tip anchor p q : Placed} {candidate : Header}
  {last first : UInt32} {old declared : Compact} {n : Nat}

/-! The time that a window counts for. -/

theorem le_countedTimespan (r : RuleSet) (last first : UInt32) :
    r.timespan / swing ≤ (countedTimespan last first r.schedule.timespan).toNat := by
  have hlow : ((r.timespan / swing : Nat) : Int) ≤
      countedTimespan last first r.schedule.timespan := le_max_left _ _
  omega

theorem countedTimespan_of_within (hlow : r.timespan / swing ≤ n) (hhigh : n ≤ r.timespan * swing)
    (h : elapsed last first = n) : countedTimespan last first r.schedule.timespan = n := by
  show max ((r.timespan / swing : Nat) : Int) (min _ ((r.timespan * swing : Nat) : Int)) = n
  rw [h, min_eq_left (Int.ofNat_le.mpr hhigh), max_eq_right (Int.ofNat_le.mpr hlow)]

/-- The windows that count as the fastest are those that took no longer. -/
theorem countedTimespan_eq_fastest_iff :
    countedTimespan last first r.schedule.timespan = (r.timespan / swing : Nat) ↔
      elapsed last first ≤ (r.timespan / swing : Nat) := by
  have hpos := r.timespan_pos
  have hcap : ¬((r.timespan * swing : Nat) : Int) ≤ (r.timespan / swing : Nat) := by
    unfold swing
    omega
  show max ((r.timespan / swing : Nat) : Int) (min _ ((r.timespan * swing : Nat) : Int)) = _ ↔ _
  rw [max_eq_left_iff, min_le_iff, or_iff_left hcap]

/-- The times of a window enter a retarget through the time that it counts for. -/
theorem retargeted_congr {last' first' : UInt32}
    (h : countedTimespan last first r.schedule.timespan =
      countedTimespan last' first' r.schedule.timespan) (old declared : Compact) :
    r.retargeted last first old declared = r.retargeted last' first' old declared := by
  unfold retargeted scaledTarget
  rw [h]

/-! A window on time. -/

/-- A header comes one height and one spacing after its parent, on a clock of 32 bits. -/
def OnTime (r : RuleSet) (child parent : Placed) : Prop :=
  History.OneBelow child parent ∧
    child.time.toNat = (parent.time.toNat + r.spacing) % 2 ^ 32

instance (r : RuleSet) (child parent : Placed) : Decidable (r.OnTime child parent) :=
  inferInstanceAs (Decidable (_ ∧ _))

theorem time_of_onTime (h : v.Path r.OnTime n p q) :
    p.time.toNat = (q.time.toNat + n * r.spacing) % 2 ^ 32 := by
  induction n generalizing p with
  | zero =>
    cases h
    have htime := q.time.toNat_lt
    omega
  | succ n ih =>
    obtain ⟨x, _, ⟨_, hstep⟩, hpath⟩ := h
    have hrest := ih hpath
    rw [Nat.succ_mul]
    omega

/-- A window of blocks on time took just what was meant, if that is a multiple of its blocks. -/
theorem elapsed_of_onTime (hdvd : r.interval ∣ r.timespan)
    (hpath : v.Path r.OnTime r.interval p q) : elapsed p.time q.time = r.timespan := by
  have hbound := r.timespan_le
  apply elapsed_of_toNat_eq
  · unfold maxTimespan swing at hbound
    omega
  · rw [time_of_onTime hpath]
    show (_ + r.interval * (r.timespan / r.interval)) % _ = _
    rw [Nat.mul_div_cancel' hdvd]

theorem scaledTarget_of_elapsed (h : elapsed last first = r.timespan)
    (hlimit : old.target ≤ r.limit) : r.scaledTarget last first old = old.target := by
  have hcounted : countedTimespan last first r.schedule.timespan = r.timespan :=
    countedTimespan_of_within (Nat.div_le_self _ _) (Nat.le_mul_of_pos_right _ (by decide)) h
  unfold scaledTarget
  rw [hcounted, Int.toNat_natCast, Nat.mul_div_cancel _ r.timespan_pos, min_eq_left hlimit]

/-- A canonical word declares the number that it stands for, so a retarget to that number gives
    it back to any block that declares a word of its length. -/
theorem retargeted_of_canonical (hcanonical : old.Canonical) (hsize : declared.size = old.size)
    (h : r.scaledTarget last first old = old.target) :
    r.retargeted last first old declared = old := by
  have hdeclares := Compact.declares_ofTarget old.target_lt
  rw [hcanonical] at hdeclares
  unfold retargeted
  rw [h, Compact.precision_congr hsize]
  exact hdeclares

/-- After a later window whose blocks all came on time the target is what it was: the same word,
    for a candidate that declares one of its length. -/
theorem expectation_after_window_on_time (hb : r.isBoundary tip.nextHeight = true)
    (hlater : tip.nextHeight ≠ r.interval) (hdvd : r.interval ∣ r.timespan)
    (hpath : v.Path r.OnTime r.interval tip anchor) (hcanonical : tip.bits.Canonical)
    (hlimit : tip.bits.target ≤ r.limit) (hsize : candidate.bits.size = tip.bits.size) :
    r.expectation v tip candidate = .ok (.bits tip.bits) := by
  have hdescends : v.Descends (r.lookback tip.nextHeight) tip anchor := by
    unfold lookback
    rw [if_neg hlater]
    exact hpath.mono fun _ _ h => h.1
  have hscaled : r.scaledTarget tip.time anchor.time tip.bits = tip.bits.target :=
    scaledTarget_of_elapsed (elapsed_of_onTime hdvd hpath) hlimit
  rw [expectation_of_descent hb hdescends, retargeted_of_canonical hcanonical hsize hscaled]

/-- The clock comes round inside the second window of two blocks, and the word has two bytes. -/
theorem expectation_after_window_on_time_round_clock :
    let r : RuleSet := ⟨⟨60, 2, (⟨0x1e0fffff⟩ : Compact).target, false⟩, by decide⟩
    let d : Digest := ⟨List.replicate 32 1, by decide⟩
    let behind : Placed := ⟨.lone 0xfffffffa ⟨0x02008000⟩, 1⟩
    let first : Placed := ⟨.lone 24 ⟨0x02008000⟩, 2⟩
    let tip : Placed := ⟨⟨1, d, .zero, 54, ⟨0x02008000⟩, 0⟩, 3⟩
    let v := History.ofList [(d, first), (.zero, behind)]
    v.Path r.OnTime r.interval tip behind ∧
    r.expectation v tip (.lone 84 ⟨0x02ffffff⟩) = .ok (.bits ⟨0x02008000⟩) := by
  intro r d behind first tip v
  have hpath : v.Path r.OnTime r.interval tip behind :=
    ⟨first, by decide, by decide, behind, by decide, by decide, rfl⟩
  exact ⟨hpath, expectation_after_window_on_time (by decide) (by decide) (by decide) hpath
    (by decide) (by decide +kernel) (by decide)⟩

/-! Fast windows. -/

/-- A window that counts for a `k`-th of its timespan leaves a `k`-th of the target, up to the
    limit. -/
theorem min_div_le_scaledTarget {k : Nat}
    (h : r.timespan ≤ k * (countedTimespan last first r.schedule.timespan).toNat) :
    min (old.target / k) r.limit ≤ r.scaledTarget last first old := by
  apply min_le_min_right
  rw [Nat.le_div_iff_mul_le r.timespan_pos]
  calc old.target / k * r.timespan
      ≤ old.target / k * (k * (countedTimespan last first r.schedule.timespan).toNat) :=
        Nat.mul_le_mul_left _ h
    _ = old.target / k * k * (countedTimespan last first r.schedule.timespan).toNat :=
        (Nat.mul_assoc _ _ _).symm
    _ ≤ old.target * (countedTimespan last first r.schedule.timespan).toNat :=
        Nat.mul_le_mul_right _ (Nat.div_mul_le_self _ _)

/-- A block that declares the encoding of the due target gets it. -/
theorem retargeted_due (hlimit : r.limit < 2 ^ 2039) :
    r.retargeted last first old (.ofTarget (r.scaledTarget last first old)) =
      .ofTarget (r.scaledTarget last first old) :=
  Compact.declares_ofTarget (Nat.lt_of_le_of_lt (r.scaledTarget_le_limit last first old) hlimit)

theorem target_ofTarget_le_retargeted_due (hlimit : r.limit < 2 ^ 2039)
    (h : n ≤ r.scaledTarget last first old) :
    (Compact.ofTarget n).target ≤
      (r.retargeted last first old (.ofTarget (r.scaledTarget last first old))).target := by
  rw [retargeted_due hlimit]
  apply Compact.target_ofTarget_mono h
  exact Nat.lt_of_le_of_lt (r.scaledTarget_le_limit last first old) hlimit

/-- How far one window lowers the target, for a block that declares the encoding of what is due:
    to no less than the share that a fourth of the timespan, in whole seconds, has in the
    timespan. A window that counts for a quarter of its timespan or more leaves a quarter of the
    target, so every window does if the timespan divides by four. With a timespan of four
    seconds or more every window leaves a seventh. -/
theorem retargeted_due_ge (hlimit : r.limit < 2 ^ 2039) (last first : UInt32) (old : Compact) :
    let counted := (countedTimespan last first r.schedule.timespan).toNat
    let due := min (old.target * counted / r.timespan) r.limit
    let new := r.retargeted last first old (.ofTarget due)
    (Compact.ofTarget (min (old.target * (r.timespan / 4) / r.timespan) r.limit)).target ≤
      new.target ∧
    (r.timespan ≤ 4 * counted →
      (Compact.ofTarget (min (old.target / 4) r.limit)).target ≤ new.target) ∧
    (4 ∣ r.timespan →
      (Compact.ofTarget (min (old.target / 4) r.limit)).target ≤ new.target) ∧
    (4 ≤ r.timespan →
      (Compact.ofTarget (min (old.target / 7) r.limit)).target ≤ new.target) := by
  intro counted due new
  have hfourth : r.timespan / 4 ≤ counted := r.le_countedTimespan last first
  have hquarter : r.timespan ≤ 4 * counted →
      (Compact.ofTarget (min (old.target / 4) r.limit)).target ≤ new.target := by
    intro h
    exact target_ofTarget_le_retargeted_due hlimit (min_div_le_scaledTarget h)
  refine ⟨?_, hquarter, ?_, ?_⟩
  · apply target_ofTarget_le_retargeted_due hlimit
    exact min_le_min_right _ (Nat.div_le_div_right (Nat.mul_le_mul_left _ hfourth))
  · intro hdvd
    apply hquarter
    omega
  · intro hfour
    apply target_ofTarget_le_retargeted_due hlimit
    apply min_div_le_scaledTarget
    show r.timespan ≤ 7 * counted
    omega

/-- Two blocks of one second on the production network, where seven seconds count for thirty,
    and two that are eight seconds apart. -/
theorem retargeted_due_ge_production :
    let r := ofNetwork .production
    let old : Compact := ⟨0x1e0ffff0⟩
    let counted := fun last => (countedTimespan last 1000 r.schedule.timespan).toNat
    let new := fun last => r.retargeted last 1000 old
      (.ofTarget (min (old.target * counted last / r.timespan) r.limit))
    r.limit < 2 ^ 2039 ∧ counted 1000 = 7 ∧ (new 1000).word = 0x1e03bbb8 ∧
    (Compact.ofTarget (min (old.target * (r.timespan / 4) / r.timespan) r.limit)).target ≤
      (new 1000).target ∧
    counted 1008 = 8 ∧ (new 1008).word = 0x1e044440 ∧
    (Compact.ofTarget (min (old.target / 4) r.limit)).target ≤ (new 1008).target := by
  intro r old counted new
  have hlimit : r.limit < 2 ^ 2039 := by decide +kernel
  exact ⟨hlimit, by decide, by decide +kernel, (retargeted_due_ge hlimit 1000 1000 old).1,
    by decide, by decide +kernel,
    (retargeted_due_ge hlimit 1008 1000 old).2.1 (by decide)⟩

/-- The two blocks of one second: a quarter of the target is more than seven thirtieths. -/
theorem retargeted_due_below_quarter :
    ¬ ∀ (r : RuleSet) (last first : UInt32) (old : Compact), r.limit < 2 ^ 2039 →
      let counted := (countedTimespan last first r.schedule.timespan).toNat
      let due := min (old.target * counted / r.timespan) r.limit
      (Compact.ofTarget (min (old.target / 4) r.limit)).target ≤
        (r.retargeted last first old (.ofTarget due)).target := by
  intro h
  exact absurd (h (ofNetwork .production) 1000 1000 ⟨0x1e0ffff0⟩ (by decide +kernel))
    (by decide +kernel)

/-! Windows whose ends stand in the wrong order. -/

/-- A window that ends before it starts counts as the fastest, and gives the target that any
    window without time gives, if its ends are no more than half the clock apart, or so nearly
    the whole of it that no more than the fastest window's time is left. In between it counts
    for what is left of the clock, within the swing. -/
theorem misordered_window (r : RuleSet) (h : last < first) :
    let apart := first.toNat - last.toNat
    let counted := countedTimespan last first r.schedule.timespan
    (counted = (r.timespan / 4 : Nat) ↔ apart ≤ 2 ^ 31 ∨ 2 ^ 32 ≤ apart + r.timespan / 4) ∧
    (counted = (r.timespan / 4 : Nat) → ∀ (time : UInt32) (old declared : Compact),
      r.retargeted last first old declared = r.retargeted time time old declared) ∧
    (2 ^ 31 < apart → counted =
      max ((r.timespan / 4 : Nat) : Int)
        (min ((2 ^ 32 - apart : Nat) : Int) ((r.timespan * 4 : Nat) : Int))) := by
  intro apart counted
  refine ⟨?_, ?_, ?_⟩
  · refine countedTimespan_eq_fastest_iff.trans ?_
    show elapsed last first ≤ (r.timespan / 4 : Nat) ↔ _
    have hfirst := first.toNat_lt
    rcases Nat.lt_or_ge (2 ^ 31) apart with hfar | hnear
    · rw [elapsed_of_far hfar]
      omega
    · have hneg := elapsed_of_near h hnear
      omega
  · intro hfastest time old declared
    apply retargeted_congr
    refine Eq.trans hfastest (Eq.symm ?_)
    apply countedTimespan_eq_fastest_iff.mpr
    rw [elapsed_self]
    exact Int.natCast_nonneg _
  · intro hfar
    show max _ (min (elapsed last first) _) = _
    rw [elapsed_of_far hfar]
    rfl

/-- On the production network, ends half the clock apart, and nearly all of it. -/
theorem misordered_window_production :
    let r := ofNetwork .production
    let fastest := ((r.timespan / 4 : Nat) : Int)
    fastest = 7 ∧ (0 : UInt32) < 0x80000000 ∧
    countedTimespan 0 0x80000000 r.schedule.timespan = fastest ∧
    countedTimespan 0 0xfffffff9 r.schedule.timespan = fastest ∧
    r.retargeted 0 0x80000000 ⟨0x1e0ffff0⟩ ⟨0x1e03bbb8⟩ =
      r.retargeted 0 0 ⟨0x1e0ffff0⟩ ⟨0x1e03bbb8⟩ := by
  intro r fastest
  have hhalf : (0 : UInt32) < 0x80000000 := by decide
  have hnearly : (0 : UInt32) < 0xfffffff9 := by decide
  have hfastest : countedTimespan 0 0x80000000 r.schedule.timespan = fastest :=
    (misordered_window r hhalf).1.mpr (by decide)
  exact ⟨by decide, hhalf, hfastest, (misordered_window r hnearly).1.mpr (by decide),
    (misordered_window r hhalf).2.1 hfastest 0 _ _⟩

/-- One second more than half the clock apart, and the window counts as the slowest. -/
theorem misordered_window_slowest :
    ¬ ∀ (r : RuleSet) (last first : UInt32) (old declared : Compact), last < first →
      countedTimespan last first r.schedule.timespan = (r.timespan / 4 : Nat) ∧
      r.retargeted last first old declared = r.retargeted first first old declared := by
  intro h
  have hfar := (h (ofNetwork .production) 0 0x80000001 ⟨0x1e0ffff0⟩ ⟨0x1e0ffff0⟩ (by decide)).1
  exact absurd hfar (by decide)

end RuleSet

end Retargeting
