import Retargeting.Rules.Anchor
import Retargeting.Rules.StallRelief
import Retargeting.Rules.Window

/- The target that the next block must declare. Inside a window the tip's target
   carries over, or stall relief decides where the schedule has it; at the end of
   a window the target is set anew from the times of the window's ends. The first
   window starts at the first block of the chain and so is one step shorter; any
   later one starts at the last block of the window before it, which leaves no
   gap whose length a majority could choose. A history that stops at a checkpoint
   inside the window leaves the target open, and a block's own word is taken. -/
namespace Retargeting

inductive Expectation where
  /-- The target it must declare. -/
  | bits (expected : Compact)
  /-- History ends before the start of the window. -/
  | checkpoint
  deriving DecidableEq

def Expectation.bits? : Expectation → Option Compact
  | .bits expected => some expected
  | .checkpoint => none

def Expectation.isCheckpoint : Expectation → Bool
  | .bits _ => false
  | .checkpoint => true

inductive Verdict where
  | valid
  | invalid (expected declared : Compact)
  deriving DecidableEq

def Verdict.reason? : Verdict → Option String
  | .valid => none
  | .invalid expected declared =>
    some ("Network provided difficulty bits do not match what was calculated: "
      ++ expected.shown ++ " vs " ++ declared.shown)

def Placed.nextHeight (tip : Placed) : Nat := tip.height.toNat + 1

namespace RuleSet

/-- Whether the block at this height begins a window. -/
def isBoundary (r : RuleSet) (height : Nat) : Bool := height % r.interval = 0

/-- How many steps back from its tip the window before this height starts. -/
def lookback (r : RuleSet) (height : Nat) : Nat :=
  if height = r.interval then r.interval - 1 else r.interval

/-- Window ends are a multiple of the interval, so the window before one is on the chain. -/
theorem lookback_le {r : RuleSet} {i : Nat} (hb : (i + 1) % r.interval = 0) :
    r.lookback (i + 1) ≤ i := by
  have hpos := r.interval_pos
  unfold lookback
  split
  · omega
  · next hne =>
    obtain ⟨k, hk⟩ := Nat.dvd_of_mod_eq_zero hb
    have hzero : k ≠ 0 := by rintro rfl; omega
    have hone : k ≠ 1 := by rintro rfl; omega
    have htwo : r.interval * 2 ≤ r.interval * k := Nat.mul_le_mul_left _ (by omega)
    omega

theorem sub_lookback {r : RuleSet} (i : Nat) :
    i - r.lookback (i + 1) = if i + 1 = r.interval then 0 else i - r.interval := by
  unfold lookback
  split <;> omega

/-- What is expected of the block after `tip` at the end of a window. -/
def boundaryExpectation (r : RuleSet) (v : History) (tip : Placed) (candidate : Header) :
    Except Fault Expectation :=
  (v.anchor? tip (r.lookback tip.nextHeight)).map fun
    | some anchor => .bits (r.retargeted tip.time anchor.time tip.bits candidate.bits)
    | none => .checkpoint

/-- What is expected of `candidate` as the block after `tip`. -/
def expectation (r : RuleSet) (v : History) (tip : Placed) (candidate : Header) :
    Except Fault Expectation :=
  if r.isBoundary tip.nextHeight then r.boundaryExpectation v tip candidate
  else if r.schedule.stallRelief then (r.reliefBits v tip candidate).map .bits
  else .ok (.bits tip.bits)

/-- Whether a declared target meets an expectation; a checkpoint takes any. -/
def judge (declared : Compact) : Expectation → Verdict
  | .checkpoint => .valid
  | .bits expected => if expected = declared then .valid else .invalid expected declared

/-- Whether `candidate` may follow `tip`. -/
def verdict (r : RuleSet) (v : History) (tip : Placed) (candidate : Header) :
    Except Fault Verdict :=
  (r.expectation v tip candidate).map (judge candidate.bits)

end RuleSet

end Retargeting
