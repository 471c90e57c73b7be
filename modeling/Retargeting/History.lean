import Retargeting.Header

/- What a node knows of the chain behind a header. The rules only ever walk
   backwards along parent hashes, so a history is a look-up by hash. It may end
   at a checkpoint: a hash that it does not resolve names a header that is not
   kept, not one that never was. Nothing ties the heights it reports to one
   another; the rules check what they rely on. -/
namespace Retargeting

/-- The headers that are kept, by hash. -/
abbrev History := Digest → Option Placed

namespace History

/-- The header before `p`, if it is kept. -/
def parent? (v : History) (p : Placed) : Option Placed := v p.header.parent

/-- The header `n` steps before `p`, if all headers on the way are kept. -/
def ancestor? (v : History) : Nat → Placed → Option Placed
  | 0, p => some p
  | n + 1, p => (v.parent? p).bind (v.ancestor? n)

/-- The history with these entries; of two with one key the later counts. -/
def ofList (entries : List (Digest × Placed)) : History := fun d => entries.reverse.lookup d

end History

end Retargeting
