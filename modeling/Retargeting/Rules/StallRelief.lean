import Retargeting.History
import Retargeting.Rules

/- Stall relief on test networks, away from the ends of windows. A block that
   comes more than two spacings after the tip may declare the limit. Any other
   block has the target of the last block that was not relieved: the walk goes
   back while the header declares the limit inside its window, and stops early
   where the history does. The walk follows parents and not heights, so only the
   number of digests bounds it; a walk that is longer has met a parent twice and
   would never end. The rule is written over look-ups that act, so that what it
   looks up can be logged; a history only answers them. -/
namespace Retargeting

def digestCount : Nat := 1 <<< 256

namespace RuleSet

/-- The latest time, by the tip, at which a block is not yet late. -/
def stallLimit (r : RuleSet) (tip : Placed) : Nat := tip.time.toNat + 2 * r.spacing

/-- Whether a header may owe its target to relief. -/
def isRelieved (r : RuleSet) (p : Placed) : Bool :=
  p.height.toNat % r.interval ≠ 0 ∧ p.bits = r.limitBits

theorem isRelieved_iff {r : RuleSet} {p : Placed} :
    r.isRelieved p = true ↔ p.height.toNat % r.interval ≠ 0 ∧ p.bits = r.limitBits :=
  decide_eq_true_iff

/-! The rule, over look-ups that act. -/

section
variable {m : Type → Type} [Monad m]

/-- The first header from `p` backwards that owes nothing to relief or has no
    parent that is kept, looking at no more than `n` headers. -/
@[specialize]
def walk (r : RuleSet) (lookUp : Digest → m (Option Placed)) : Nat → Placed → m (Option Placed)
  | 0, _ => pure none
  | n + 1, p =>
    if r.isRelieved p then do
      match ← lookUp p.header.parent with
      | some q => r.walk lookUp n q
      | none => pure (some p)
    else pure (some p)

/-- The target of a block that comes after `tip` inside a window. -/
@[specialize]
def relief (r : RuleSet) (lookUp : Digest → m (Option Placed)) (tip : Placed)
    (candidate : Header) : m (Except Fault Compact) :=
  if r.stallLimit tip < candidate.time.toNat then pure (.ok r.limitBits)
  else do
    match ← r.walk lookUp (digestCount + 1) tip with
    | some p => pure (.ok p.bits)
    | none => pure (.error (.history (.endless tip.height)))

end

/-! The rule on a history. -/

/-- Where the walk ends on a history, if it ends within `n` headers. -/
def unrelieved? (r : RuleSet) (v : History) (n : Nat) (p : Placed) : Option Placed :=
  (r.walk (m := Id) v n p).run

/-- What relief answers on a history. -/
def reliefBits (r : RuleSet) (v : History) (tip : Placed) (candidate : Header) :
    Except Fault Compact :=
  (r.relief (m := Id) v tip candidate).run

section
variable {r : RuleSet} {v : History} {tip p q : Placed} {candidate : Header} {n : Nat}

theorem unrelieved?_zero : r.unrelieved? v 0 p = none := rfl

theorem unrelieved?_of_unrelieved (hfree : ¬r.isRelieved p = true) :
    r.unrelieved? v (n + 1) p = some p := by
  rw [unrelieved?, walk, if_neg hfree]
  rfl

theorem unrelieved?_of_unkept (hrel : r.isRelieved p = true) (hnone : v.parent? p = none) :
    r.unrelieved? v (n + 1) p = some p := by
  replace hnone : v p.header.parent = none := hnone
  rw [unrelieved?, walk, if_pos hrel, hnone]
  rfl

theorem unrelieved?_of_kept (hrel : r.isRelieved p = true) (hq : v.parent? p = some q) :
    r.unrelieved? v (n + 1) p = r.unrelieved? v n q := by
  replace hq : v p.header.parent = some q := hq
  rw [unrelieved?, walk, if_pos hrel, hq]
  rfl

theorem reliefBits_of_late (hlate : r.stallLimit tip < candidate.time.toNat) :
    r.reliefBits v tip candidate = .ok r.limitBits := by
  rw [reliefBits, relief, if_pos hlate]
  rfl

section
variable (hearly : candidate.time.toNat ≤ r.stallLimit tip)
include hearly

theorem reliefBits_of_unrelieved (hwalk : r.unrelieved? v (digestCount + 1) tip = some p) :
    r.reliefBits v tip candidate = .ok p.bits := by
  rw [unrelieved?] at hwalk
  rw [reliefBits, relief, if_neg (Nat.not_lt.mpr hearly), Id.run_bind, hwalk]
  rfl

theorem reliefBits_of_endless (hwalk : r.unrelieved? v (digestCount + 1) tip = none) :
    r.reliefBits v tip candidate = .error (.history (.endless tip.height)) := by
  rw [unrelieved?] at hwalk
  rw [reliefBits, relief, if_neg (Nat.not_lt.mpr hearly), Id.run_bind, hwalk]
  rfl

end

end

end RuleSet

end Retargeting
