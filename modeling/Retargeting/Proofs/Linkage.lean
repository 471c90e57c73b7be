import Mathlib.Algebra.Order.Ring.Nat
import Mathlib.Data.Nat.Find
import Retargeting.Proofs.Walks
import Retargeting.Store

/- Chains by index. A chain is given by its headers from the first one on, and the
   block at index `i` is header `i` at height `i`. Where a history keeps a stretch of
   a chain, so that the parent of each block in it is the block one index down, the
   walks of the rules are index arithmetic: the anchor walk subtracts its steps, and
   the relief walk ends at the greatest index that owes nothing to relief. A store that
   takes the blocks of a chain one on top of the other keeps such a stretch, as long as
   the hashes of the blocks are distinct. -/
namespace Retargeting

/-- Block `i` of a chain. -/
def placedAt (chain : Nat → Header) (i : Nat) : Placed := ⟨chain i, UInt32.ofNat i⟩

theorem height_placedAt (chain : Nat → Header) {i : Nat} (h : i < 2 ^ 32) :
    (placedAt chain i).height.toNat = i := UInt32.toNat_ofNat_of_lt' h

theorem hash_placedAt (chain : Nat → Header) (i : Nat) :
    (placedAt chain i).hash = (chain i).hash := rfl

/-- The first `n + 1` blocks follow one another, and each hash names one of them. -/
structure Follows (chain : Nat → Header) (n : Nat) : Prop where
  parent_eq : ∀ i < n, (chain (i + 1)).parent = (chain i).hash
  hash_inj : ∀ i ≤ n, ∀ j ≤ n, (chain i).hash = (chain j).hash → i = j

theorem Follows.zero (chain : Nat → Header) : Follows chain 0 :=
  ⟨fun i hi => absurd hi (Nat.not_lt_zero i), fun i hi j hj _ => by omega⟩

/-- In `v` every block from `lo` exclusive to `hi` has the block before it as its parent. -/
def History.Keeps (v : History) (chain : Nat → Header) (lo hi : Nat) : Prop :=
  ∀ i, lo ≤ i → i < hi → v.parent? (placedAt chain (i + 1)) = some (placedAt chain i)

/-! The walks along a stretch that is kept. -/

/-- Parents are one index down, so a path subtracts its length from the index. -/
theorem History.Keeps.path {v : History} {chain : Nat → Header} {lo hi : Nat}
    {allowed : Placed → Placed → Prop} (hk : v.Keeps chain lo hi)
    (hall : ∀ i, lo ≤ i → i < hi → allowed (placedAt chain (i + 1)) (placedAt chain i)) :
    ∀ {n i : Nat}, lo + n ≤ i → i ≤ hi →
      v.Path allowed n (placedAt chain i) (placedAt chain (i - n)) := by
  intro n
  induction n with
  | zero => intro i _ _; rfl
  | succ n ih =>
    intro i hlo hi'
    obtain ⟨j, rfl⟩ : ∃ j, i = j + 1 := ⟨i - 1, by omega⟩
    rw [Nat.add_sub_add_right]
    exact ⟨placedAt chain j, hk j (by omega) (by omega), hall j (by omega) (by omega),
      ih (by omega) (by omega)⟩

theorem History.Keeps.descends {v : History} {chain : Nat → Header} {lo hi n i : Nat}
    (hk : v.Keeps chain lo hi) (hhi : hi < 2 ^ 32) (hlo : lo + n ≤ i) (hi' : i ≤ hi) :
    v.Descends n (placedAt chain i) (placedAt chain (i - n)) := by
  apply hk.path _ hlo hi'
  intro j _ hj
  unfold History.OneBelow
  rw [height_placedAt chain (by omega), height_placedAt chain (by omega)]

/-- The anchor walk subtracts its steps from the index. -/
theorem History.Keeps.anchorFrom_eq {v : History} {chain : Nat → Header} {lo hi : Nat}
    (hk : v.Keeps chain lo hi) (hhi : hi < 2 ^ 32) (tip : UInt32) (steps left i : Nat)
    (hlo : lo + left ≤ i) (hi' : i ≤ hi) :
    v.anchorFrom tip steps left (placedAt chain i) = .ok (some (placedAt chain (i - left))) :=
  History.Descends.anchorFrom_eq (hk.descends hhi hlo hi') tip steps 0

/-- What a block at index `i` owes to relief, by its index and its word. -/
theorem RuleSet.isRelieved_placedAt (r : RuleSet) (chain : Nat → Header) {i : Nat}
    (h : i < 2 ^ 32) : r.isRelieved (placedAt chain i) = true ↔
      ¬(i % r.interval = 0 ∨ (chain i).bits ≠ r.limitBits) := by
  rw [RuleSet.isRelieved_iff, height_placedAt chain h, not_or, not_not]
  rfl

/-- The relief walk stops at the greatest index that owes nothing to relief: the first
    block of the chain is one. -/
theorem History.Keeps.stopsAt {v : History} {chain : Nat → Header} {hi i : Nat}
    (hk : v.Keeps chain 0 hi) (hhi : hi < 2 ^ 32) (r : RuleSet) (hi' : i ≤ hi) :
    r.StopsAt v (placedAt chain i) (placedAt chain
      (Nat.findGreatest (fun j => j % r.interval = 0 ∨ (chain j).bits ≠ r.limitBits) i)) := by
  generalize hj : Nat.findGreatest
    (fun j => j % r.interval = 0 ∨ (chain j).bits ≠ r.limitBits) i = j
  have hle : j ≤ i := hj ▸ Nat.findGreatest_le i
  have hfree : j % r.interval = 0 ∨ (chain j).bits ≠ r.limitBits := by
    rw [← hj]
    exact Nat.findGreatest_spec (P := fun j => j % r.interval = 0 ∨ (chain j).bits ≠ r.limitBits)
      (Nat.zero_le i) (Or.inl (Nat.zero_mod _))
  have hstretch : v.Keeps chain j i := fun m _ hm => hk m (Nat.zero_le m) (by omega)
  have hpath : r.Passes v (i - j) (placedAt chain i) (placedAt chain (i - (i - j))) := by
    apply hstretch.path _ (by omega) (Nat.le_refl i)
    intro m hlo hm
    rw [r.isRelieved_placedAt chain (by omega)]
    rw [← hj] at hlo
    exact Nat.findGreatest_is_greatest (Nat.lt_succ_of_le hlo) hm
  rw [Nat.sub_sub_self hle] at hpath
  refine ⟨i - j, hpath, ?_⟩
  intro hrel
  exact absurd hfree ((r.isRelieved_placedAt chain (by omega)).mp hrel)

/-! Stores that hold a stretch of a chain. -/

/-- The store holds the blocks from `lo` to `hi` and no others, and `hi` is its tip. -/
structure Store.Spans (s : Store) (chain : Nat → Header) (lo hi : Nat) : Prop where
  lo_le : lo ≤ hi
  hi_lt : hi < 2 ^ 32
  tip?_eq : s.tip? = some (placedAt chain hi)
  history_iff : ∀ d p, s.history d = some p ↔
    ∃ i, lo ≤ i ∧ i ≤ hi ∧ (chain i).hash = d ∧ placedAt chain i = p

theorem Store.Spans.keeps {s : Store} {chain : Nat → Header} {lo hi n : Nat}
    (hs : s.Spans chain lo hi) (hf : Follows chain n) (hhi : hi ≤ n) :
    s.history.Keeps chain lo hi := by
  intro i hlo hlt
  show s.history (chain (i + 1)).parent = some (placedAt chain i)
  rw [hs.history_iff]
  exact ⟨i, hlo, Nat.le_of_lt hlt, (hf.parent_eq i (by omega)).symm, rfl⟩

theorem Store.tip?_insert_of_above {s : Store} {p : Placed} (h : s.isAboveTip p.height = true) :
    (s.insert p).tip? = some p := by
  show (if s.isAboveTip p.height then some p.hash else s.tipHash).bind (s.insert p).history = some p
  rw [if_pos h, Option.bind_some, Store.history_insert, if_pos rfl]

/-- The first block of a chain goes into an empty store. -/
theorem Store.push_empty (chain : Nat → Header) :
    ∃ s, Store.push ∅ (chain 0) = .ok s ∧ s.Spans chain 0 0 := by
  refine ⟨(∅ : Store).insert (placedAt chain 0), rfl, Nat.le_refl _, by decide, ?_, ?_⟩
  · exact Store.tip?_insert_of_above rfl
  · intro d p
    rw [Store.history_insert, Store.history_empty, hash_placedAt]
    constructor
    · intro h
      split at h
      · next hd => exact ⟨0, Nat.le_refl _, Nat.le_refl _, hd, Option.some.inj h⟩
      · cases h
    · rintro ⟨i, _, hi, hd, hp⟩
      obtain rfl : i = 0 := Nat.le_zero.mp hi
      rw [if_pos hd, hp]

/-- A block above the tip goes on top of the stretch. -/
theorem Store.Spans.insert {s : Store} {chain : Nat → Header} {lo hi : Nat}
    (hs : s.Spans chain lo hi) (hlt : hi + 1 < 2 ^ 32)
    (hnew : ∀ i, lo ≤ i → i ≤ hi → (chain i).hash ≠ (chain (hi + 1)).hash) :
    (s.insert (placedAt chain (hi + 1))).Spans chain lo (hi + 1) := by
  refine ⟨Nat.le_succ_of_le hs.lo_le, hlt, ?_, ?_⟩
  · apply Store.tip?_insert_of_above
    have hle := hs.hi_lt
    unfold Store.isAboveTip
    rw [hs.tip?_eq]
    simp only [decide_eq_true_eq, UInt32.lt_iff_toNat_lt, height_placedAt chain hle,
      height_placedAt chain hlt]
    exact Nat.lt_succ_self hi
  · intro d p
    rw [Store.history_insert, hash_placedAt]
    constructor
    · intro h
      split at h
      · next hd =>
        exact ⟨hi + 1, Nat.le_succ_of_le hs.lo_le, Nat.le_refl _, hd, Option.some.inj h⟩
      · obtain ⟨i, hlo, hi', hd, hp⟩ := (hs.history_iff d p).mp h
        exact ⟨i, hlo, Nat.le_succ_of_le hi', hd, hp⟩
    · rintro ⟨i, hlo, hi', hd, hp⟩
      -- an older block is found as before, since the new one does not have its hash
      rcases Nat.lt_or_eq_of_le hi' with hlt' | rfl
      · have hle : i ≤ hi := Nat.le_of_lt_succ hlt'
        rw [if_neg]
        · exact (hs.history_iff d p).mpr ⟨i, hlo, hle, hd, hp⟩
        · intro hd'
          exact hnew i hlo hle (hd.trans hd'.symm)
      · rw [if_pos hd, hp]

/-- The next block of a chain goes onto the tip. -/
theorem Store.Spans.push {s : Store} {chain : Nat → Header} {lo hi n : Nat}
    (hs : s.Spans chain lo hi) (hf : Follows chain n) (hhi : hi < n) (hn : n < 2 ^ 32) :
    ∃ s', s.push (chain (hi + 1)) = .ok s' ∧ s'.Spans chain lo (hi + 1) := by
  have hplace : s.placeNext (chain (hi + 1)) = .ok (placedAt chain (hi + 1)) := by
    refine (Store.placeNext_eq_ok_iff hs.tip?_eq).mpr ⟨rfl, hf.parent_eq hi hhi, ?_⟩
    rw [height_placedAt chain hs.hi_lt, height_placedAt chain (by omega)]
  have hnew : ∀ i, lo ≤ i → i ≤ hi → (chain i).hash ≠ (chain (hi + 1)).hash := by
    intro i _ hle heq
    have := hf.hash_inj i (by omega) (hi + 1) (by omega) heq
    omega
  exact ⟨_, Store.push_of_place hplace, hs.insert (by omega) hnew⟩

end Retargeting
