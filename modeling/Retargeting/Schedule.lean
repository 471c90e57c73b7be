import Retargeting.Compact

/- The parameters of a chain's difficulty rules. A window of `interval` blocks is
   meant to take `timespan` seconds; at its end the target is set anew, never
   easier than `limit`. Test networks add stall relief: a block that comes late
   may declare the limit itself. `fault?` says what makes a schedule unfit for
   the arithmetic of the rules; the bound on the timespan keeps four times its
   value within signed 32-bit seconds. -/
namespace Retargeting

structure Schedule where
  /-- How long a window is meant to take, in seconds. -/
  timespan : UInt32
  /-- The blocks of a window. -/
  interval : UInt32
  /-- The easiest target that the network accepts. -/
  limit : Nat
  /-- Whether a block that comes late may declare the limit. -/
  stallRelief : Bool
  deriving DecidableEq

/-- Why a schedule is unfit. -/
inductive ScheduleFault where
  | zeroInterval
  | zeroTimespan
  | longTimespan (timespan : UInt32)
  | shortTimespan (timespan interval : UInt32)
  | zeroLimit
  deriving DecidableEq

/-- The largest factor by which one retarget changes a target, either way. -/
def swing : Nat := 4

/-- The longest timespan whose `swing`-fold is a signed 32-bit number. -/
def maxTimespan : Nat := 0x7fffffff / swing

namespace Schedule

/-- The first fault of the schedule, if any. -/
def fault? (s : Schedule) : Option ScheduleFault :=
  if s.interval = 0 then some .zeroInterval
  else if s.timespan = 0 then some .zeroTimespan
  else if maxTimespan < s.timespan.toNat then some (.longTimespan s.timespan)
  else if s.timespan < s.interval then some (.shortTimespan s.timespan s.interval)
  else if s.limit = 0 then some .zeroLimit
  else none

/-- The time from one block to the next, in whole seconds; a window without
    blocks has none. -/
def spacing? (s : Schedule) : Option UInt32 :=
  if s.interval = 0 then none else some (s.timespan / s.interval)

/-- The limit as headers declare it. -/
def limitBits (s : Schedule) : Compact := .ofTarget s.limit

/-- A schedule without fault is one that meets all five bounds. -/
theorem fault?_eq_none_iff (s : Schedule) :
    s.fault? = none ↔ s.interval ≠ 0 ∧ s.timespan ≠ 0 ∧ s.timespan.toNat ≤ maxTimespan
      ∧ s.interval ≤ s.timespan ∧ s.limit ≠ 0 := by
  unfold fault?
  split
  · simp_all
  split
  · simp_all
  split
  · simp; omega
  split
  · next h => simp [UInt32.not_le.mpr h]
  split
  · simp_all
  · next h1 h2 h3 h4 h5 =>
    simp only [true_iff]
    exact ⟨h1, h2, by omega, UInt32.not_lt.mp h4, h5⟩

end Schedule

end Retargeting
