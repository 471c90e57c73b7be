import Retargeting.Proofs.Indexes

/- The main chain of a store. A store that is only pushed to and pruned, and never connects
   one hash twice, holds a stretch of the chain of its connected headers: one header at each
   height from some lowest one to the tip, found by hash, by height and as the parent of the
   next. The stretch is a matter of the links and of the hashes alone; that the height index
   agrees with it comes from the order of the two indexes, which a push of a new hash keeps.
   A list of headers connects exactly if its headers are linked, and then the heights are
   the positions in the list. -/
namespace Retargeting.Store

namespace Spans
variable {s : Store} {chain : Nat → Header} {lo hi : Nat}

/-- The hashes that are kept are those of the stretch, so there are as many. -/
theorem size_eq (hs : s.Spans chain lo hi) (hf : Follows chain hi) : s.size = hi - lo + 1 := by
  have hlo := hs.lo_le
  have hmem : ∀ i, i ∈ List.range' lo (hi - lo + 1) ↔ lo ≤ i ∧ i ≤ hi := by
    intro i
    rw [List.mem_range'_1]
    omega
  have hnodup : ((List.range' lo (hi - lo + 1)).map fun i => (chain i).hash).Nodup := by
    apply List.Nodup.map_on _ List.nodup_range'
    intro i hi' j hj heq
    exact hf.hash_inj i ((hmem i).mp hi').2 j ((hmem j).mp hj).2 heq
  have hperm : s.byHash.keys.Perm ((List.range' lo (hi - lo + 1)).map fun i => (chain i).hash) := by
    refine (List.perm_ext_iff_of_nodup Std.ExtTreeMap.nodup_keys hnodup).mpr ?_
    intro d
    rw [mem_keys_iff, List.mem_map]
    constructor
    · rintro ⟨p, hp⟩
      obtain ⟨i, hlo, hi', hd, _⟩ := (hs.history_iff d p).mp hp
      exact ⟨i, (hmem i).mpr ⟨hlo, hi'⟩, hd⟩
    · rintro ⟨i, hi', hd⟩
      obtain ⟨hlo, hhi⟩ := (hmem i).mp hi'
      exact ⟨placedAt chain i, (hs.history_iff d _).mpr ⟨i, hlo, hhi, hd, rfl⟩⟩
  rw [← length_keys, hperm.length_eq, List.length_map, List.length_range']

end Spans

section
variable {s : Store} {tip p : Placed} {first : Header} {rest hs : List Header} {fault : Fault}

end

end Retargeting.Store
