import Retargeting.Fault
import Retargeting.History

/- The first block of a window, found by walking back from its last one. Every
   step must lead exactly one height down. A header that is not kept ends the
   walk without an anchor: that is a checkpoint, not a fault. -/
namespace Retargeting.History

/-- Walks `left` more of `steps` steps, which began at height `tip`, from `p`. -/
def anchorFrom (v : History) (tip : UInt32) (steps : Nat) :
    Nat → Placed → Except Fault (Option Placed)
  | 0, p => .ok (some p)
  | left + 1, p =>
    if p.height = 0 then .error (.history (.pastGenesis (steps - (left + 1)) steps tip))
    else match v.parent? p with
      | none => .ok none
      | some q =>
        if q.height.toNat + 1 = p.height.toNat then v.anchorFrom tip steps left q
        else .error (.history (.brokenLink p.height q.height))

/-- The header `steps` steps before `tip`; `none` if a checkpoint comes first. -/
def anchor? (v : History) (tip : Placed) (steps : Nat) : Except Fault (Option Placed) :=
  v.anchorFrom tip.height steps steps tip

end Retargeting.History
