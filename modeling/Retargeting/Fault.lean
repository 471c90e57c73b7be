import Retargeting.Json.Mismatch
import Retargeting.Schedule

/- Everything that can go wrong, by cause: a history that contradicts itself, a
   schedule that the rules cannot use, a document that cannot be read. `message`
   words a cause, with the kind of the fault in front. -/
namespace Retargeting

/-- How a history contradicts what the rules rely on. -/
inductive HistoryFault where
  /-- A header that is to be connected names a parent other than the tip. -/
  | notOnTip (tip : UInt32)
  /-- The tip is at the last height, so none is left for a header on top of it. The
      program stops at that sum. -/
  | noHeightAbove (tip : UInt32)
  /-- A parent is recorded at a height other than one below its child. -/
  | brokenLink (child parent : UInt32)
  /-- A walk of `steps` steps from height `tip` was at height zero after `done`. -/
  | pastGenesis (done steps : Nat) (tip : UInt32)
  /-- The parents of a header come back to themselves. -/
  | endless (tip : UInt32)
  deriving DecidableEq

inductive Fault where
  | history (cause : HistoryFault)
  | schedule (cause : ScheduleFault)
  | document (cause : Json.Mismatch)
  deriving DecidableEq

def HistoryFault.message : HistoryFault → String
  | .notOnTip tip => "header does not extend tip at height " ++ toString tip
  | .noHeightAbove tip => "no height above tip at height " ++ toString tip
  | .brokenLink child parent =>
    "parent of block at height " ++ toString child ++ " reported at height " ++ toString parent
  | .pastGenesis done steps tip =>
    "difficulty transition point but no way back to genesis: reached height 0 after "
      ++ toString done ++ " of " ++ toString steps ++ " steps from height " ++ toString tip
  | .endless tip => "ancestors of block at height " ++ toString tip ++ " have no end"

def ScheduleFault.message : ScheduleFault → String
  | .zeroInterval => "retarget interval must be positive"
  | .zeroTimespan => "target timespan must be positive"
  | .longTimespan timespan =>
    "target timespan " ++ toString timespan ++ " exceeds the 32-bit timespan range"
  | .shortTimespan timespan interval =>
    "target timespan " ++ toString timespan ++ " is shorter than the interval of "
      ++ toString interval ++ " blocks"
  | .zeroLimit => "maximum target must be non-zero"

/-- The wording of a fault, its kind first. -/
def Fault.message : Fault → String
  | .history cause => "Chain invariant violated: " ++ cause.message
  | .schedule cause => "Invalid chain parameters: " ++ cause.message
  | .document cause => "Serialization error: " ++ cause.message

end Retargeting
