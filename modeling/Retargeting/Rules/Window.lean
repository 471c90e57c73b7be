import Retargeting.Rules

/- The target after a window. The time that the window took, held between a
   `swing`-th of what was meant and the `swing`-fold of it, scales the old
   target; the result is capped at the limit and then cut to the three bytes that
   the next block's own length byte implies, so it has the precision which that
   block claims. -/
namespace Retargeting

/-- The seconds from `first` to `last`, as a signed 32-bit number: times that
    run backwards, and those too far apart, come out negative. -/
def elapsed (last first : UInt32) : Int :=
  Int.bmod ((last.toNat : Int) - (first.toNat : Int)) 0x100000000

/-- The time a window took, held within the swing about its timespan. -/
def countedTimespan (last first timespan : UInt32) : Int :=
  max ((timespan.toNat / swing : Nat) : Int)
    (min (elapsed last first) ((timespan.toNat * swing : Nat) : Int))

/-- The bits of a target that a length byte gives room to: three bytes. -/
def Compact.precision (declared : Compact) : Nat :=
  if 3 ≤ declared.size then 0xffffff <<< (8 * (declared.size - 3))
  else 0xffffff >>> (8 * (3 - declared.size))

namespace RuleSet

/-- The old target scaled by the time its window took, and capped. -/
def scaledTarget (r : RuleSet) (last first : UInt32) (old : Compact) : Nat :=
  min (old.target * (countedTimespan last first r.schedule.timespan).toNat / r.timespan) r.limit

/-- The target after a window from time `first` to time `last` under the target
    `old`, for a block that declares `declared`. -/
def retargeted (r : RuleSet) (last first : UInt32) (old declared : Compact) : Compact :=
  .ofTarget (r.scaledTarget last first old &&& declared.precision)

end RuleSet

theorem countedTimespan_nonneg (last first timespan : UInt32) :
    0 ≤ countedTimespan last first timespan :=
  Int.le_trans (Int.natCast_nonneg _) (Int.le_max_left _ _)

theorem RuleSet.scaledTarget_le_limit (r : RuleSet) (last first : UInt32) (old : Compact) :
    r.scaledTarget last first old ≤ r.limit := Nat.min_le_right _ _

end Retargeting
