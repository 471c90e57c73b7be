import Retargeting.Fault
import Retargeting.Network

/- The difficulty rules of a chain: a schedule together with the proof that it
   has no fault. The rules themselves are functions of a `RuleSet`, so no rule
   divides by zero or has to look at its parameters again. -/
namespace Retargeting

/-- A schedule that the rules can use. -/
structure RuleSet where
  schedule : Schedule
  sound : schedule.fault? = none

namespace RuleSet

/-- The rules of a schedule, or what is wrong with it. -/
def ofSchedule (s : Schedule) : Except Fault RuleSet :=
  match h : s.fault? with
  | none => .ok ⟨s, h⟩
  | some cause => .error (.schedule cause)

def ofNetwork (n : Network) : RuleSet := ⟨n.schedule, n.fault?_schedule⟩

instance : Inhabited RuleSet := ⟨ofNetwork .production⟩

/-- The blocks of a window. -/
def interval (r : RuleSet) : Nat := r.schedule.interval.toNat

/-- The seconds that a window is meant to take. -/
def timespan (r : RuleSet) : Nat := r.schedule.timespan.toNat

/-- The easiest target. -/
def limit (r : RuleSet) : Nat := r.schedule.limit

/-- The easiest target as headers declare it. -/
def limitBits (r : RuleSet) : Compact := r.schedule.limitBits

/-- The seconds from one block to the next. -/
def spacing (r : RuleSet) : Nat := r.timespan / r.interval

theorem ofSchedule_eq_ok_iff (s : Schedule) (r : RuleSet) :
    ofSchedule s = .ok r ↔ r.schedule = s := by
  obtain ⟨t, sound⟩ := r
  unfold ofSchedule
  split
  · simp [eq_comm]
  · next cause h =>
    simp only [reduceCtorEq, false_iff]
    intro e
    subst e
    simp [sound] at h

theorem interval_pos (r : RuleSet) : 0 < r.interval := by
  have h := (r.schedule.fault?_eq_none_iff.mp r.sound).1
  exact Nat.pos_of_ne_zero fun e => h (UInt32.toNat_inj.mp e)

theorem timespan_pos (r : RuleSet) : 0 < r.timespan := by
  have h := (r.schedule.fault?_eq_none_iff.mp r.sound).2.1
  exact Nat.pos_of_ne_zero fun e => h (UInt32.toNat_inj.mp e)

theorem timespan_le (r : RuleSet) : r.timespan ≤ maxTimespan :=
  (r.schedule.fault?_eq_none_iff.mp r.sound).2.2.1

theorem interval_le_timespan (r : RuleSet) : r.interval ≤ r.timespan :=
  UInt32.le_iff_toNat_le.mp (r.schedule.fault?_eq_none_iff.mp r.sound).2.2.2.1

theorem limit_pos (r : RuleSet) : 0 < r.limit :=
  Nat.pos_of_ne_zero (r.schedule.fault?_eq_none_iff.mp r.sound).2.2.2.2

theorem spacing_pos (r : RuleSet) : 0 < r.spacing :=
  Nat.div_pos r.interval_le_timespan r.interval_pos

/-- The rules use the spacing that the schedule reports. -/
theorem spacing?_eq (r : RuleSet) :
    ∃ w, r.schedule.spacing? = some w ∧ w.toNat = r.spacing := by
  have h := (r.schedule.fault?_eq_none_iff.mp r.sound).1
  exact ⟨r.schedule.timespan / r.schedule.interval, by simp [Schedule.spacing?, h], by
    simp [spacing, timespan, interval, UInt32.toNat_div]⟩

end RuleSet

end Retargeting
