import Mathlib.Data.List.Chain
import Mathlib.Data.List.GetD
import Mathlib.Tactic.IntervalCases
import Retargeting.Proofs.Declarations
import Retargeting.Proofs.Linkage

/- Validating a chain block by block. A node that fills an empty store judges every
   block against the store that it has so far, which it walks by parent hashes. What it
   accepts in the end can be said without any store: at each index the block declares
   the word that is due there, and the due word is read off the headers by their
   indices alone. The links make the walks find the indices, and the hashes, each of
   which names one block only, keep the look-ups apart. -/
namespace Retargeting

namespace RuleSet

/-! The rules by index. -/

/-- The word due at index `i` of a chain. Where a window starts it is the target of the
    window before, which runs from the first block for the first window and from the
    last block before the window for any later one. Elsewhere it is the word of the
    block before; or, with stall relief, the limit for a block that comes late, and the
    word of the last block that owes nothing to relief for any other. -/
def dueBits (r : RuleSet) (chain : Nat → Header) (i : Nat) : Compact :=
  if i % r.interval = 0 then
    let anchor := if i = r.interval then 0 else i - 1 - r.interval
    r.retargeted (chain (i - 1)).time (chain anchor).time (chain (i - 1)).bits (chain i).bits
  else if r.schedule.stallRelief then
    if (chain (i - 1)).time.toNat + 2 * r.spacing < (chain i).time.toNat then r.limitBits
    else (chain (Nat.findGreatest
      (fun j => j % r.interval = 0 ∨ (chain j).bits ≠ r.limitBits) (i - 1))).bits
  else (chain (i - 1)).bits

/-! Block by block. -/

/-- Connects a header to a store if the rules allow it on top of the tip. -/
def connect? (r : RuleSet) (s : Store) (h : Header) : Option Store :=
  match s.tip? with
  | none => none
  | some tip =>
    match r.verdict s.history tip h with
    | .ok .valid => (s.push h).toOption
    | _ => none

/-- The store of headers that are connected one after the other, the first as it is;
    `none` once a header is refused. -/
def replay? (r : RuleSet) : List Header → Option Store
  | [] => some ∅
  | first :: rest => (Store.push ∅ first).toOption.bind fun s => rest.foldlM r.connect? s

variable {r : RuleSet} {chain : Nat → Header}

/-! What is expected on top of a chain. -/

/-- Stall relief on top of a chain that is kept from its first block on. -/
theorem reliefBits_placedAt {v : History} {i : Nat} (hk : v.Keeps chain 0 i)
    (hi : i < 2 ^ 32) (candidate : Header) :
    r.reliefBits v (placedAt chain i) candidate = .ok
      (if (chain i).time.toNat + 2 * r.spacing < candidate.time.toNat then r.limitBits
      else (chain (Nat.findGreatest
        (fun j => j % r.interval = 0 ∨ (chain j).bits ≠ r.limitBits) i)).bits) := by
  have hwalk := unrelieved?_digestCount_eq_some_iff.mpr (hk.stopsAt hi r (Nat.le_refl i))
  split
  · next hlate => exact reliefBits_of_late hlate
  · next hearly =>
    replace hearly : candidate.time.toNat ≤ r.stallLimit (placedAt chain i) := Nat.not_lt.mp hearly
    exact reliefBits_of_unrelieved hearly hwalk

/-- Where history keeps the chain from its first block on, the rules expect of the next
    block the word due at its index. -/
theorem expectation_eq_dueBits {v : History} {i : Nat} (hk : v.Keeps chain 0 i)
    (hi : i + 1 < 2 ^ 32) :
    r.expectation v (placedAt chain i) (chain (i + 1)) = .ok (.bits (r.dueBits chain (i + 1))) := by
  have hnext : (placedAt chain i).nextHeight = i + 1 := by
    unfold Placed.nextHeight
    rw [height_placedAt chain (by omega)]
  unfold dueBits
  rw [Nat.add_sub_cancel]
  by_cases hb : (i + 1) % r.interval = 0
  · -- the end of a window: the anchor walk stays on the chain
    have hlook := r.lookback_le hb
    have ha : v.anchor? (placedAt chain i) (r.lookback (placedAt chain i).nextHeight) =
        .ok (some (placedAt chain (i - r.lookback (i + 1)))) := by
      rw [hnext]
      exact hk.anchorFrom_eq (by omega) _ _ _ i (by omega) (Nat.le_refl i)
    rw [expectation_boundary _ (by simp [isBoundary, hnext, hb]) ha,
      if_pos hb, sub_lookback]
    rfl
  · have hin : r.isBoundary (placedAt chain i).nextHeight = false := by
      simp [isBoundary, hnext, hb]
    unfold expectation
    rw [hin, if_neg hb, reliefBits_placedAt hk (by omega)]
    cases r.schedule.stallRelief <;> rfl

/-! Connecting the blocks of a chain. -/

section Connecting
variable {n hi : Nat} {s : Store} (hs : s.Spans chain 0 hi) (hf : Follows chain n) (hhi : hi < n)
  (hn : n < 2 ^ 32)
include hs hf hhi hn

theorem verdict_of_spans :
    r.verdict s.history (placedAt chain hi) (chain (hi + 1)) =
      .ok (judge (chain (hi + 1)).bits (.bits (r.dueBits chain (hi + 1)))) := by
  unfold verdict
  rw [expectation_eq_dueBits (hs.keeps hf (by omega)) (by omega)]
  rfl

/-- A block that declares the word due at its index is connected. -/
theorem connect?_of_due (hdue : (chain (hi + 1)).bits = r.dueBits chain (hi + 1)) :
    ∃ s', r.connect? s (chain (hi + 1)) = some s' ∧ s'.Spans chain 0 (hi + 1) := by
  obtain ⟨s', hpush, hs'⟩ := hs.push hf hhi hn
  refine ⟨s', ?_, hs'⟩
  have hv := verdict_of_spans (r := r) hs hf hhi hn
  rw [← hdue] at hv
  simp [connect?, hs.tip?_eq, hv, judge, hpush, Except.toOption]

/-- Any other block is refused. -/
theorem connect?_of_not_due (hdue : (chain (hi + 1)).bits ≠ r.dueBits chain (hi + 1)) :
    r.connect? s (chain (hi + 1)) = none := by
  have hv := verdict_of_spans (r := r) hs hf hhi hn
  simp [connect?, hs.tip?_eq, hv, judge, Ne.symm hdue]

end Connecting

/-- The next `k` blocks are all connected if each declares the word due at its index. -/
theorem foldlM_connect?_isSome_iff {n : Nat} (hf : Follows chain n) (hn : n < 2 ^ 32) :
    ∀ (k hi : Nat) (s : Store), s.Spans chain 0 hi → hi + k ≤ n →
      ((((List.range' (hi + 1) k).map chain).foldlM r.connect? s).isSome ↔
        ∀ i, hi < i → i ≤ hi + k → (chain i).bits = r.dueBits chain i) := by
  -- by the number of blocks to come, over every store that spans the ones before
  intro k
  induction k with
  | zero =>
    intro hi s _ _
    simp only [List.range'_zero, List.map_nil, List.foldlM_nil]
    exact ⟨fun _ i h h' => absurd h (by omega), fun _ => rfl⟩
  | succ k ih =>
    intro hi s hs hle
    rw [List.range'_succ, List.map_cons, List.foldlM_cons]
    by_cases hdue : (chain (hi + 1)).bits = r.dueBits chain (hi + 1)
    · obtain ⟨s', hconn, hs'⟩ := connect?_of_due hs hf (by omega) hn hdue
      rw [hconn]
      show (((List.range' (hi + 1 + 1) k).map chain).foldlM r.connect? s').isSome ↔ _
      rw [ih (hi + 1) s' hs' (by omega)]
      constructor
      · intro h i hlt hi'
        rcases Nat.lt_or_eq_of_le (Nat.succ_le_of_lt hlt) with hlt' | rfl
        · exact h i hlt' (by omega)
        · exact hdue
      · intro h i hlt hi'
        exact h i (by omega) (by omega)
    · -- a refused block ends the run, whatever comes after it
      rw [connect?_of_not_due hs hf (by omega) hn hdue]
      constructor
      · intro h
        cases h
      · intro h
        exact absurd (h (hi + 1) (by omega) (by omega)) hdue

end RuleSet

/-! Lists of headers. -/

theorem hash_inj_getD {first : Header} {rest : List Header}
    (hdis : ((first :: rest).map Header.hash).Nodup) : ∀ i ≤ rest.length, ∀ j ≤ rest.length,
    ((first :: rest).getD i first).hash = ((first :: rest).getD j first).hash → i = j := by
  intro i hi j hj heq
  rw [List.Nodup, List.pairwise_map, List.pairwise_iff_getElem] at hdis
  rw [List.getD_eq_getElem _ _ (Nat.lt_succ_of_le hi),
    List.getD_eq_getElem _ _ (Nat.lt_succ_of_le hj)] at heq
  rcases Nat.lt_trichotomy i j with hlt | rfl | hlt
  · exact absurd heq (hdis i j _ _ hlt)
  · rfl
  · exact absurd heq.symm (hdis j i _ _ hlt)

theorem follows_getD {first : Header} {rest : List Header}
    (hlink : (first :: rest).IsChain fun a b => b.parent = a.hash)
    (hdis : ((first :: rest).map Header.hash).Nodup) :
    Follows (fun i => (first :: rest).getD i first) rest.length := by
  refine ⟨?_, hash_inj_getD hdis⟩
  intro i hi
  have hlt : i + 1 < (first :: rest).length := Nat.succ_lt_succ hi
  rw [List.getD_eq_getElem _ _ hlt, List.getD_eq_getElem _ _ (Nat.lt_of_succ_lt hlt)]
  exact List.isChain_iff_getElem.mp hlink i hlt

theorem map_range'_getD (first : Header) (rest : List Header) :
    (List.range' 1 rest.length).map (fun i => (first :: rest).getD i first) = rest := by
  apply List.ext_getElem
  · simp
  · intro i h h'
    simp [List.getElem?_eq_getElem h', Nat.add_comm 1 i]

/-- A list of linked headers of distinct hashes is accepted block by block exactly when
    each header but the first declares the word due at its index. -/
theorem replay_accepts_iff (r : RuleSet) (first : Header) (rest : List Header)
    (hlen : (first :: rest).length ≤ 2 ^ 32)
    (hlink : (first :: rest).IsChain fun a b => b.parent = a.hash)
    (hdis : ((first :: rest).map Header.hash).Nodup) :
    (r.replay? (first :: rest)).isSome ↔
      ∀ i, 1 ≤ i → i ≤ rest.length →
        ((first :: rest).getD i first).bits =
          r.dueBits (fun j => (first :: rest).getD j first) i := by
  have hf := follows_getD hlink hdis
  obtain ⟨s, hpush, hs⟩ := Store.push_empty fun i => (first :: rest).getD i first
  have hrun := RuleSet.foldlM_connect?_isSome_iff (r := r) hf (Nat.lt_of_succ_le hlen)
    rest.length 0 s hs (by omega)
  rw [Nat.zero_add, map_range'_getD, Nat.zero_add] at hrun
  refine Iff.trans ?_ hrun
  show ((Store.push ∅ first).toOption.bind fun s => rest.foldlM r.connect? s).isSome ↔ _
  rw [show Store.push ∅ first = .ok s from hpush]
  rfl

/-- A header on top of another. -/
def Header.onTop (prev : Header) (time : UInt32) (bits : Compact) : Header :=
  ⟨1, prev.hash, .zero, time, bits, 0⟩

theorem Header.parent_onTop (prev : Header) (time : UInt32) (bits : Compact) :
    (prev.onTop time bits).parent = prev.hash := rfl

/-- Five blocks under stall relief, two to a window: the second is in time, the third and
    the fifth begin windows, and the fourth is late. -/
theorem replay_accepts_relieved_chain :
    let r : RuleSet := ⟨⟨60, 2, (⟨0x1e0fffff⟩ : Compact).target, true⟩, by decide⟩
    let b0 := Header.lone 1000 ⟨0x1e0ffff0⟩
    let b1 := b0.onTop 1030 ⟨0x1e0ffff0⟩
    let b2 := b1.onTop 1060 ⟨0x1e07fff8⟩
    let b3 := b2.onTop 1200 ⟨0x1e0fffff⟩
    let b4 := b3.onTop 1230 ⟨0x1e0fffff⟩
    ([b0, b1, b2, b3, b4].map Header.hash).Nodup ∧
    (r.replay? [b0, b1, b2, b3, b4]).isSome := by
  intro r b0 b1 b2 b3 b4
  have hdis : ([b0, b1, b2, b3, b4].map Header.hash).Nodup := by decide +kernel
  have hlink : [b0, b1, b2, b3, b4].IsChain fun a b => b.parent = a.hash := by
    simp only [List.isChain_cons_cons, List.IsChain.singleton, and_true]
    exact ⟨b0.parent_onTop _ _, b1.parent_onTop _ _, b2.parent_onTop _ _, b3.parent_onTop _ _⟩
  refine ⟨hdis, (replay_accepts_iff r b0 [b1, b2, b3, b4] (by decide) hlink hdis).mpr ?_⟩
  intro i hlo hi
  have hi' : i ≤ 4 := hi
  interval_cases i <;> decide +kernel

end Retargeting
