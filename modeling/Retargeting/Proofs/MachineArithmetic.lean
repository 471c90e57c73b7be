import Retargeting.Proofs.Machine
import Retargeting.Proofs.Scaling

/- A machine runs the rules without a trap. Each of its functions has one lemma here: by a
   schedule without fault it gives what the rules give in unbounded numbers. The bounds that
   such a schedule meets decide every one of them, with the bounds of the words that it is
   applied to; the history has no part in it, so the walks need no more than one step each.
   A schedule with a fault is refused for it, and looking for the fault does not trap
   either (`fault?_eq`). -/
namespace Retargeting.Machine

/-! ## Looking at a schedule -/

/-- No schedule is too wild to be looked at. -/
theorem fault?_eq (s : Schedule) : fault? s = .ok s.fault? := by
  have hquarter : Width.i32.quot 0x7fffffff swing = .ok maxTimespan := rfl
  have hlongest : Width.u32.exact maxTimespan = .ok maxTimespan := rfl
  unfold fault? Schedule.fault?
  rw [hquarter, Except.bind, hlongest]
  simp only [Except.map, Int.ofNat_lt]
  split
  · rfl
  split
  · rfl
  · rfl

section Sound
variable (r : RuleSet)

/-- A schedule without fault is not refused. -/
theorem checked_eq {α : Type} (rule : Except Trap (Except Fault α)) :
    checked r.schedule rule = rule := by
  rw [checked, fault?_eq, r.sound, Except.bind]

theorem spacing_eq : spacing r.schedule = .ok r.spacing := by
  have hfits : r.timespan ≤ 0xffffffff := Nat.le_trans r.timespan_le (by decide)
  exact Width.quot_natCast r.interval_pos (by decide) (Int.ofNat_le.mpr hfits)

theorem spacing_le : r.spacing ≤ maxTimespan :=
  Nat.le_trans (Nat.div_le_self _ _) r.timespan_le

theorem stallLimit_eq (tip : Placed) : stallLimit r.schedule tip = .ok (r.stallLimit tip) := by
  have hspacing : r.spacing ≤ 536870911 := spacing_le r
  have htime := tip.time.toNat_lt
  have hlate : Width.i64.mul 2 r.spacing = .ok (2 * r.spacing) :=
    Width.i64_exact (by omega) (by omega)
  have hlimit : Width.i64.add tip.time.toNat (2 * r.spacing) =
      .ok (tip.time.toNat + 2 * r.spacing) :=
    Width.i64_exact (by omega) (by omega)
  simp only [stallLimit, spacing_eq, Except.bind, hlate, hlimit]
  simp [RuleSet.stallLimit]

theorem isRelieved_eq (p : Placed) : isRelieved r.schedule p = .ok (r.isRelieved p) := by
  have hheight := p.height.toNat_lt
  have hplace : Width.u32.rem p.height.toNat r.schedule.interval.toNat =
      .ok (p.height.toNat % r.interval : Nat) :=
    Width.rem_natCast r.interval_pos (by decide) (by simp only [Width.u32]; omega)
  rw [isRelieved, hplace]
  simp only [Except.map, RuleSet.isRelieved, RuleSet.limitBits, ne_eq, Int.natCast_eq_zero]
  rfl

theorem unrelieved?_eq (v : History) : ∀ n p,
    unrelieved? r.schedule v n p = .ok (r.unrelieved? v n p)
  | 0, _ => rfl
  | n + 1, p => by
    rw [unrelieved?, isRelieved_eq, Except.bind]
    split
    · next hrel =>
      cases hp : v.parent? p with
      | none => rw [RuleSet.unrelieved?_of_unkept hrel hp]
      | some q =>
        rw [RuleSet.unrelieved?_of_kept hrel hp]
        exact unrelieved?_eq v n q
    · next hfree => rw [RuleSet.unrelieved?_of_unrelieved hfree]

theorem reliefBits_eq (v : History) (tip : Placed) (candidate : Header) :
    reliefBits r.schedule v tip candidate = .ok (r.reliefBits v tip candidate) := by
  rw [reliefBits, checked_eq, stallLimit_eq, Except.bind]
  simp only [Int.ofNat_lt, unrelieved?_eq, Except.map]
  split
  · next hlate =>
    rw [RuleSet.reliefBits_of_late hlate]
    rfl
  · next hearly =>
    cases hwalk : r.unrelieved? v (digestCount + 1) tip with
    | some p => rw [RuleSet.reliefBits_of_unrelieved (Nat.not_lt.mp hearly) hwalk]
    | none => rw [RuleSet.reliefBits_of_endless (Nat.not_lt.mp hearly) hwalk]

theorem countedTimespan_eq (last first : UInt32) :
    countedTimespan last first r.schedule.timespan =
      .ok (Retargeting.countedTimespan last first r.schedule.timespan) := by
  have htimespan : r.schedule.timespan.toNat ≤ 536870911 := r.timespan_le
  have hlast := last.toNat_lt
  have hfirst := first.toNat_lt
  have hdifference : Width.i64.sub last.toNat first.toNat = .ok (last.toNat - first.toNat) :=
    Width.i64_exact (by omega) (by omega)
  have hleast : Width.i64.quot r.schedule.timespan.toNat swing =
      .ok (r.schedule.timespan.toNat / swing : Nat) :=
    Width.quot_natCast (by decide) (by decide) (by simp only [Width.i64]; omega)
  have hmost : Width.i64.mul r.schedule.timespan.toNat swing =
      .ok (r.schedule.timespan.toNat * swing) :=
    Width.i64_exact (by simp only [swing]; omega) (by simp only [swing]; omega)
  simp only [countedTimespan, hdifference, hleast, hmost, Except.bind]
  rw [clamp_eq (by simp only [swing]; omega)]
  simp [Retargeting.countedTimespan, elapsed]

/-- The time that counts has 31 bits. -/
theorem counted_le (last first : UInt32) :
    Retargeting.countedTimespan last first r.schedule.timespan ≤ 0x7fffffff := by
  have htimespan : r.schedule.timespan.toNat ≤ 536870911 := r.timespan_le
  refine Int.le_trans (countedTimespan_le last first r.schedule.timespan) ?_
  simp only [swing]
  omega

theorem shiftCount_eq {bytes : Nat} (h : bytes ≤ 252) :
    shiftCount bytes = .ok (8 * bytes : Nat) := by
  have hbytes : Width.u32.exact bytes = .ok bytes :=
    Width.u32_exact (by omega) (by omega)
  have hbits : Width.u32.mul bytes 8 = .ok (bytes * 8) :=
    Width.u32_exact (by omega) (by omega)
  simp only [shiftCount, hbytes, Except.bind, hbits]
  congr 1
  omega

/-- The window of a length byte lies at most 252 bytes from the end of a number. -/
theorem distance_eq (declared : Compact) :
    Width.i32.sub declared.size 3 = .ok ((declared.size : Int) - 3) := by
  have hsize := declared.size_lt
  exact Width.i32_exact (by omega) (by omega)

theorem precision_eq (declared : Compact) : precision declared = .ok declared.precision := by
  have hsize := declared.size_lt
  rw [precision, distance_eq, Except.bind, Compact.precision]
  split
  · next hle =>
    have hbytes : (declared.size : Int) - 3 = (declared.size - 3 : Nat) := by omega
    rw [hbytes, shiftCount_eq (by omega), if_pos (by omega)]
    rfl
  · next hlt =>
    have hbytes : ((declared.size : Int) - 3).natAbs = 3 - declared.size := by omega
    rw [hbytes, shiftCount_eq (by omega), if_neg (by omega)]
    rfl

/-- So it is converted to an unsigned number as it is. -/
theorem seconds_eq (last first : UInt32) :
    Width.u64.exact (Retargeting.countedTimespan last first r.schedule.timespan) =
      .ok (Retargeting.countedTimespan last first r.schedule.timespan) := by
  have hle := counted_le r last first
  exact Width.u64_exact (countedTimespan_nonneg last first r.schedule.timespan) (by omega)

theorem scaledTarget_eq (last first : UInt32) (old : Compact) :
    scaledTarget r.schedule last first old = .ok (old.target *
      (Retargeting.countedTimespan last first r.schedule.timespan).toNat / r.timespan) := by
  rw [scaledTarget, countedTimespan_eq, Except.bind, seconds_eq, Except.bind]
  exact naturalQuot_eq r.timespan_pos

theorem next_eq (height : UInt32) :
    Width.u64.add height.toNat 1 = .ok (height.toNat + 1 : Nat) := by
  have hheight := height.toNat_lt
  exact Width.u64_exact (by omega) (by omega)

theorem capped_eq (height : UInt32) (target : Nat) :
    capped r.schedule height target = .ok (min target r.limit) := by
  rw [capped, next_eq, RuleSet.limit]
  split
  · next hcap => rw [Nat.min_eq_right (Nat.le_of_lt hcap)]; rfl
  · next hcap => rw [Nat.min_eq_left (Nat.le_of_not_lt hcap)]

theorem scaled_eq (height last first : UInt32) (old declared : Compact) :
    scaled r.schedule height last first old declared =
      .ok (r.retargeted last first old declared) := by
  rw [scaled, scaledTarget_eq, Except.bind, capped_eq, Except.bind, precision_eq]
  rfl

theorem before_eq : Width.u32.sub r.interval 1 = .ok (r.interval - 1 : Nat) := by
  have hpos := r.interval_pos
  have hlt : r.interval < 0x100000000 := r.schedule.interval.toNat_lt
  rw [Int.natCast_sub hpos]
  exact Width.u32_exact (by omega) (by omega)

theorem lookback_eq (next : Nat) : lookback r.schedule next = .ok (r.lookback next) := by
  show (if (next : Int) = r.interval then Width.u32.sub r.interval 1
    else .ok (r.interval : Int)) = _
  rw [before_eq]
  simp only [RuleSet.lookback, Int.natCast_inj]
  split
  · rfl
  · rfl

end Sound

/-- No step of the walk traps, also not where it finds a broken link. -/
theorem anchorFrom_eq (v : History) (tip : UInt32) (steps : Nat) : ∀ left p,
    anchorFrom v tip steps left p = .ok (v.anchorFrom tip steps left p)
  | 0, p => rfl
  | left + 1, p => by
    rw [anchorFrom, History.anchorFrom]
    split
    · rfl
    · next hgenesis =>
      cases v.parent? p with
      | none => rfl
      | some q =>
        have hlt := p.height.toNat_lt
        have hpos : 0 < p.height.toNat :=
          Nat.pos_of_ne_zero fun hzero => hgenesis (UInt32.toNat_inj.mp hzero)
        have hlink : (Width.u32.add q.height.toNat 1).toOption = some (p.height.toNat : Int) ↔
            q.height.toNat + 1 = p.height.toNat := by
          rw [Width.add, Width.toOption_exact_eq_some_iff (by simp only [Width.u32]; omega)
            (by simp only [Width.u32]; omega)]
          omega
        have hwanted : Width.u32.sub p.height.toNat 1 = .ok ((p.height.toNat : Int) - 1) :=
          Width.u32_exact (by omega) (by omega)
        simp only [hlink, hwanted]
        split
        · exact anchorFrom_eq v tip steps left q
        · rfl

section Rules
variable (r : RuleSet) (v : History) (tip : Placed) (candidate : Header)

theorem boundaryExpectation_eq : boundaryExpectation r.schedule v tip candidate tip.nextHeight =
    .ok (r.boundaryExpectation v tip candidate) := by
  rw [boundaryExpectation, lookback_eq, Except.bind, Int.toNat_natCast, anchorFrom_eq, Except.bind,
    RuleSet.boundaryExpectation, History.anchor?]
  cases v.anchorFrom tip.height (r.lookback tip.nextHeight) (r.lookback tip.nextHeight) tip with
  | error fault => rfl
  | ok anchor? =>
    cases anchor? with
    | none => rfl
    | some anchor =>
      simp only [scaled_eq]
      rfl

theorem expectation_eq :
    expectation r.schedule v tip candidate = .ok (r.expectation v tip candidate) := by
  have hheight := tip.height.toNat_lt
  have hnext : Width.u64.add tip.height.toNat 1 = .ok tip.nextHeight := next_eq tip.height
  have hplace : Width.u64.rem tip.nextHeight r.schedule.interval.toNat =
      .ok (tip.nextHeight % r.interval : Nat) :=
    Width.rem_natCast r.interval_pos (by decide)
      (by simp only [Width.u64, Placed.nextHeight]; omega)
  rw [expectation, checked_eq, hnext, Except.bind, hplace, Except.bind, RuleSet.expectation]
  by_cases hboundary : tip.nextHeight % r.interval = 0
  · have hends : r.isBoundary tip.nextHeight = true := decide_eq_true hboundary
    rw [if_pos (by rw [hboundary]; rfl), if_pos hends]
    exact boundaryExpectation_eq r v tip candidate
  · have hinside : ¬r.isBoundary tip.nextHeight = true := by simpa [RuleSet.isBoundary]
    rw [if_neg (Int.natCast_ne_zero.mpr hboundary), if_neg hinside, reliefBits_eq]
    split
    · rfl
    · rfl

end Rules

/-- By a schedule without fault no operation of the rules traps, whatever the history, the tip
    and the candidate are, and the rules come to what they come to in unbounded numbers. The
    spacing is a divisor and is positive; the limit of a stall and the next height are numbers
    of 64 bits; the interval has a number before it; the time that counts has 31 bits and no
    sign; and no byte of a window is shifted by more than 2016 bits. -/
theorem no_trap (r : RuleSet) (v : History) (tip : Placed) (candidate : Header)
    (height last first : UInt32) (old declared : Compact) :
    fault? r.schedule = .ok none ∧
    expectation r.schedule v tip candidate = .ok (r.expectation v tip candidate) ∧
    reliefBits r.schedule v tip candidate = .ok (r.reliefBits v tip candidate) ∧
    retargeted r.schedule height last first old declared =
      .ok (.ok (r.retargeted last first old declared)) ∧
    (∀ steps, anchorFrom v tip.height steps steps tip = .ok (v.anchor? tip steps)) ∧
    (∀ n p, unrelieved? r.schedule v n p = .ok (r.unrelieved? v n p)) ∧
    (∃ seconds, spacing r.schedule = .ok seconds ∧ 1 ≤ seconds) ∧
    stallLimit r.schedule tip = .ok (r.stallLimit tip) ∧
    Width.u64.add tip.height.toNat 1 = .ok tip.nextHeight ∧
    Width.u32.sub r.schedule.interval.toNat 1 = .ok (r.interval - 1 : Nat) ∧
    (∃ counted, countedTimespan last first r.schedule.timespan = .ok counted ∧
      0 ≤ counted ∧ counted ≤ 0x7fffffff ∧ Width.u64.exact counted = .ok counted) ∧
    ∃ bytes count, Width.i32.sub declared.size 3 = .ok bytes ∧
      shiftCount bytes.natAbs = .ok count ∧ count ≤ 2016 := by
  have hsize := declared.size_lt
  have hpos := r.interval_pos
  have hspacing := r.spacing_pos
  refine ⟨(fault?_eq _).trans (congrArg _ r.sound), expectation_eq r v tip candidate,
    reliefBits_eq r v tip candidate, ?_, fun steps => anchorFrom_eq v tip.height steps steps tip,
    unrelieved?_eq r v, ⟨_, spacing_eq r, by omega⟩, stallLimit_eq r tip,
    next_eq tip.height, before_eq r, ⟨_, countedTimespan_eq r last first,
      countedTimespan_nonneg _ _ _, counted_le r last first, seconds_eq r last first⟩,
    ⟨_, _, distance_eq declared, shiftCount_eq (by omega), by omega⟩⟩
  rw [retargeted, checked_eq, scaled_eq]
  rfl

/-- A window of no blocks has no spacing. -/
example : spacing ⟨1209600, 0, 1, false⟩ = .error .zeroDivisor := rfl

end Retargeting.Machine
