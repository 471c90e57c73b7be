import Retargeting.Proofs.Declarations
import Retargeting.Proofs.Walks

/- What the rules read of a history. They ask for parents, one after the other, and an
   answer rests on the parents they asked for and on nothing else. At the end of a window
   the walk descends one height with every parent, and the first parent that is not kept,
   or is kept at another height, decides. Inside a window stall relief asks for parents
   too, but never looks at their heights: a link that contradicts the heights is reported
   at the end of a window only. Two histories that agree on what is asked give one answer,
   so more history changes an answer only where the walk had run out of it. -/
namespace Retargeting

namespace RuleSet

/-- Asked about `candidate` on top of `tip`, the rules look up the parent of `child`. -/
inductive Asks (r : RuleSet) (v : History) (tip : Placed) (candidate : Header)
    (child : Placed) : Prop where
  | atBoundary (k : Nat) (hb : r.isBoundary tip.nextHeight = true)
      (hk : k < r.lookback tip.nextHeight) (hpath : v.Descends k tip child)
  | forRelief (k : Nat) (hb : r.isBoundary tip.nextHeight = false)
      (hflag : r.schedule.stallRelief = true) (hearly : candidate.time.toNat ≤ r.stallLimit tip)
      (hpath : r.Passes v k tip child) (hrel : r.isRelieved child = true)

variable {r : RuleSet} {v w : History} {tip child parent anchor p q : Placed}
  {candidate : Header} {k : Nat}

/-! At the end of a window. -/

theorem lookback_nextHeight_le (hb : r.isBoundary tip.nextHeight = true) :
    r.lookback tip.nextHeight ≤ tip.height.toNat := by
  have hzero : tip.nextHeight % r.interval = 0 := by simpa [isBoundary] using hb
  exact lookback_le hzero

theorem descent_pos (hb : r.isBoundary tip.nextHeight = true)
    (hk : k < r.lookback tip.nextHeight) (hpath : v.Descends k tip p) : 0 < p.height.toNat := by
  have hle := lookback_nextHeight_le hb
  have hheight := History.Descends.height_eq hpath
  omega

theorem expectation_of_descent (hb : r.isBoundary tip.nextHeight = true)
    (hpath : v.Descends (r.lookback tip.nextHeight) tip anchor) :
    r.expectation v tip candidate =
      .ok (.bits (r.retargeted tip.time anchor.time tip.bits candidate.bits)) := by
  apply expectation_boundary candidate hb
  exact History.Descends.anchorFrom_eq hpath tip.height _ 0

theorem anchor?_of_descent (hk : k < r.lookback tip.nextHeight) (hpath : v.Descends k tip p) :
    ∃ left, v.anchor? tip (r.lookback tip.nextHeight) =
      v.anchorFrom tip.height (r.lookback tip.nextHeight) (left + 1) p := by
  obtain ⟨left, hleft⟩ := Nat.exists_eq_add_of_lt hk
  refine ⟨left, ?_⟩
  have hwalk := History.Descends.anchorFrom_eq hpath tip.height (r.lookback tip.nextHeight)
    (left + 1)
  rw [← Nat.add_assoc, ← hleft] at hwalk
  exact hwalk

section
variable (hb : r.isBoundary tip.nextHeight = true) (hk : k < r.lookback tip.nextHeight)
  (hpath : v.Descends k tip p)
include hb hk hpath

/-- The first parent that is not kept leaves the target open. -/
theorem expectation_of_unkept (hnone : v.parent? p = none) :
    r.expectation v tip candidate = .ok .checkpoint := by
  obtain ⟨left, hleft⟩ := anchor?_of_descent hk hpath
  rw [History.anchorFrom_of_unkept (descent_pos hb hk hpath) hnone] at hleft
  simp only [expectation, boundaryExpectation, hb, if_true, hleft]
  rfl

/-- The first parent at another height is reported. -/
theorem expectation_of_broken (hparent : v.parent? p = some q) (hbad : ¬History.OneBelow p q) :
    r.expectation v tip candidate = .error (.history (.brokenLink p.height q.height)) := by
  obtain ⟨left, hleft⟩ := anchor?_of_descent hk hpath
  rw [History.anchorFrom_of_broken (descent_pos hb hk hpath) hparent hbad] at hleft
  simp only [expectation, boundaryExpectation, hb, if_true, hleft]
  rfl

end

/-- The walk has all its steps above the bottom of the chain, so it never runs past it. -/
theorem expectation_ne_pastGenesis (hb : r.isBoundary tip.nextHeight = true)
    (done total : Nat) (height : UInt32) :
    r.expectation v tip candidate ≠ .error (.history (.pastGenesis done total height)) := by
  rcases History.path_or_stop v History.OneBelow tip (r.lookback tip.nextHeight) with
    ⟨anchor, hpath⟩ | ⟨k, hk, p, hpath, hstop⟩
  · rw [expectation_of_descent hb hpath]
    simp
  · cases hparent : v.parent? p with
    | none =>
      rw [expectation_of_unkept hb hk hpath hparent]
      simp
    | some q =>
      rw [expectation_of_broken hb hk hpath hparent (hstop q hparent)]
      simp

/-- Where the window's anchor stands: at the bottom of the chain for the first window, else
    right behind the first block of the window that ends. -/
theorem anchor_of_descent (hb : r.isBoundary tip.nextHeight = true)
    (hpath : v.Descends (r.lookback tip.nextHeight) tip anchor) :
    (tip.nextHeight = r.interval → anchor.height.toNat = 0) ∧
    (tip.nextHeight ≠ r.interval → anchor.height.toNat + r.interval = tip.height.toNat ∧
      ∃ first, v.Descends (r.interval - 1) tip first ∧
        r.isBoundary first.height.toNat = true ∧ v.parent? first = some anchor) := by
  have hheight := History.Descends.height_eq hpath
  have hpos := r.interval_pos
  have hnext : tip.nextHeight = tip.height.toNat + 1 := rfl
  unfold lookback at hheight hpath
  constructor
  · intro hfirst
    rw [if_pos hfirst] at hheight
    omega
  · intro hlater
    rw [if_neg hlater] at hheight hpath
    refine ⟨hheight, ?_⟩
    obtain ⟨n, hn⟩ := Nat.exists_eq_add_of_lt hpos
    rw [Nat.zero_add] at hn
    rw [hn] at hpath
    obtain ⟨first, hfirst, hparent, hbelow⟩ := History.path_succ_iff.mp hpath
    refine ⟨first, ?_, ?_, hparent⟩
    · rw [hn, Nat.add_sub_cancel]
      exact hfirst
    · -- the first block stands a whole window below the next one
      have hstart : first.height.toNat + r.interval = tip.nextHeight := by
        unfold History.OneBelow at hbelow
        omega
      unfold isBoundary at hb ⊢
      rw [← hstart, Nat.add_mod_right] at hb
      exact hb

/-! Inside a window. -/

theorem stops_or_endless (r : RuleSet) (v : History) (p : Placed) :
    (∃ q, r.StopsAt v p q) ∨ ∀ n, ∃ q, r.Passes v n p q := by
  cases hcut : r.unrelieved? v (digestCount + 1) p with
  | some q => exact Or.inl ⟨q, unrelieved?_digestCount_eq_some_iff.mp hcut⟩
  | none => exact Or.inr (unrelieved?_digestCount_eq_none_iff.mp hcut)

section
variable (hb : r.isBoundary tip.nextHeight = false)
include hb

theorem expectation_inside_eq : r.expectation v tip candidate =
    if r.schedule.stallRelief then (r.reliefBits v tip candidate).map .bits
    else .ok (.bits tip.bits) := by
  simp only [expectation, hb, Bool.false_eq_true, if_false]

variable (hflag : r.schedule.stallRelief = true)
include hflag

theorem expectation_of_late (hlate : r.stallLimit tip < candidate.time.toNat) :
    r.expectation v tip candidate = .ok (.bits r.limitBits) := by
  rw [expectation_inside_eq hb, if_pos hflag, reliefBits_of_late hlate]
  rfl

variable (hearly : candidate.time.toNat ≤ r.stallLimit tip)
include hearly

/-- Relief takes the word of the header that its walk stops at. -/
theorem expectation_of_stop (hstop : r.StopsAt v tip q) :
    r.expectation v tip candidate = .ok (.bits q.bits) := by
  rw [expectation_inside_eq hb, if_pos hflag,
    reliefBits_of_unrelieved hearly (unrelieved?_digestCount_eq_some_iff.mpr hstop)]
  rfl

theorem expectation_of_endless (hlong : ∀ n, ∃ q, r.Passes v n tip q) :
    r.expectation v tip candidate = .error (.history (.endless tip.height)) := by
  rw [expectation_inside_eq hb, if_pos hflag,
    reliefBits_of_endless hearly (unrelieved?_digestCount_eq_none_iff.mpr hlong)]
  rfl

end

/-! An answer rests on what is asked. -/

theorem boundary_congr (hb : r.isBoundary tip.nextHeight = true)
    (hsame : ∀ k child, k < r.lookback tip.nextHeight → v.Descends k tip child →
      w.parent? child = v.parent? child) :
    r.expectation w tip candidate = r.expectation v tip candidate := by
  rcases History.path_or_stop v History.OneBelow tip (r.lookback tip.nextHeight) with
    ⟨anchor, hpath⟩ | ⟨k, hk, p, hpath, hstop⟩
  · have hother : w.Descends (r.lookback tip.nextHeight) tip anchor :=
      hpath.congr fun k hk x hx => hsame k x hk hx
    rw [expectation_of_descent hb hpath, expectation_of_descent hb hother]
  · have hother : w.Descends k tip p :=
      hpath.congr fun j hj x hx => hsame j x (Nat.lt_trans hj hk) hx
    have hp := hsame k p hk hpath
    cases hparent : v.parent? p with
    | none =>
      rw [hparent] at hp
      rw [expectation_of_unkept hb hk hpath hparent, expectation_of_unkept hb hk hother hp]
    | some q =>
      rw [hparent] at hp
      rw [expectation_of_broken hb hk hpath hparent (hstop q hparent),
        expectation_of_broken hb hk hother hp (hstop q hparent)]

theorem relief_congr (hb : r.isBoundary tip.nextHeight = false)
    (hflag : r.schedule.stallRelief = true) (hearly : candidate.time.toNat ≤ r.stallLimit tip)
    (hsame : ∀ k child, r.Passes v k tip child → r.isRelieved child = true →
      w.parent? child = v.parent? child) :
    r.expectation w tip candidate = r.expectation v tip candidate := by
  have hpass : ∀ n q, r.Passes v n tip q → r.Passes w n tip q := by
    intro n q hpath
    apply hpath.congr
    intro k hk x hx
    obtain ⟨_, _, hrel⟩ := hpath.next hk hx
    exact hsame k x hx hrel
  rcases stops_or_endless r v tip with ⟨q, n, hpath, hstop⟩ | hlong
  · have hother : r.StopsAt w tip q := by
      refine ⟨n, hpass n q hpath, ?_⟩
      intro hrel
      rw [hsame n q hpath hrel]
      exact hstop hrel
    rw [expectation_of_stop hb hflag hearly ⟨n, hpath, hstop⟩,
      expectation_of_stop hb hflag hearly hother]
  · have hother : ∀ n, ∃ q, r.Passes w n tip q := by
      intro n
      obtain ⟨q, hq⟩ := hlong n
      exact ⟨q, hpass n q hq⟩
    rw [expectation_of_endless hb hflag hearly hlong,
      expectation_of_endless hb hflag hearly hother]

/-- Histories that give the same parents to the headers that are asked about give the same
    answer. -/
theorem expectation_congr
    (hsame : ∀ child, r.Asks v tip candidate child → w.parent? child = v.parent? child) :
    r.expectation w tip candidate = r.expectation v tip candidate := by
  cases hb : r.isBoundary tip.nextHeight with
  | true =>
    apply boundary_congr hb
    intro k child hk hpath
    exact hsame child (.atBoundary k hb hk hpath)
  | false =>
    cases hflag : r.schedule.stallRelief with
    | false =>
      simp only [expectation_inside_eq hb, hflag, Bool.false_eq_true, if_false]
    | true =>
      rcases Nat.lt_or_ge (r.stallLimit tip) candidate.time.toNat with hlate | hearly
      · rw [expectation_of_late hb hflag hlate, expectation_of_late hb hflag hlate]
      · apply relief_congr hb hflag hearly
        intro k child hpath hrel
        exact hsame child (.forRelief k hb hflag hearly hpath hrel)

/-- A parent that is asked for and not kept ends the walk: with an open target at the end
    of a window, and with the limit inside one. -/
theorem Asks.expectation_of_unkept (hask : r.Asks v tip candidate child)
    (hnone : v.parent? child = none) :
    r.expectation v tip candidate =
      .ok (if r.isBoundary tip.nextHeight then .checkpoint else .bits r.limitBits) := by
  cases hask with
  | atBoundary k hb hk hpath =>
    rw [RuleSet.expectation_of_unkept hb hk hpath hnone, if_pos hb]
  | forRelief k hb hflag hearly hpath hrel =>
    rw [expectation_of_stop hb hflag hearly ⟨k, hpath, fun _ => hnone⟩, hb,
      (isRelieved_iff.mp hrel).2]
    rfl

/-! The end of a window, over any history. -/

/-- What is expected at the end of a window, whatever the history says. If each of the
    steps that the rules look back descends one height, the last of them is the anchor that
    the target is set from: the first block of the chain for the first window, and for a
    later one the block behind the window's first. If not, the first step that fails
    decides: it leaves the target open where the parent is not kept, and is reported where
    the parent stands at another height. The walk never comes to the bottom of the chain
    with steps to go, and no look-up but those of its steps counts. -/
theorem boundary_expectation_by_descent (hb : r.isBoundary tip.nextHeight = true) :
    let steps := r.lookback tip.nextHeight
    (∀ anchor, v.Descends steps tip anchor →
      v.ancestor? steps tip = some anchor ∧
      (tip.nextHeight = r.interval → anchor.height.toNat = 0) ∧
      (tip.nextHeight ≠ r.interval → anchor.height.toNat + r.interval = tip.height.toNat ∧
        ∃ first, v.Descends (r.interval - 1) tip first ∧
          r.isBoundary first.height.toNat = true ∧ v.parent? first = some anchor) ∧
      r.expectation v tip candidate =
        .ok (.bits (r.retargeted tip.time anchor.time tip.bits candidate.bits))) ∧
    (∀ k p, k < steps → v.Descends k tip p → v.parent? p = none →
      r.expectation v tip candidate = .ok .checkpoint) ∧
    (∀ k p q, k < steps → v.Descends k tip p → v.parent? p = some q →
      q.height.toNat + 1 ≠ p.height.toNat →
      r.expectation v tip candidate = .error (.history (.brokenLink p.height q.height))) ∧
    ((∃ anchor, v.Descends steps tip anchor) ∨ ∃ k < steps, ∃ p, v.Descends k tip p ∧
      ∀ q, v.parent? p = some q → q.height.toNat + 1 ≠ p.height.toNat) ∧
    (∀ done total height, r.expectation v tip candidate ≠
      .error (.history (.pastGenesis done total height))) ∧
    (∀ w : History, (∀ k p, k < steps → v.Descends k tip p → w.parent? p = v.parent? p) →
      r.expectation w tip candidate = r.expectation v tip candidate) := by
  intro steps
  refine ⟨?_, ?_, ?_, History.path_or_stop v History.OneBelow tip steps, ?_, ?_⟩
  · intro anchor hpath
    obtain ⟨hfirst, hlater⟩ := anchor_of_descent hb hpath
    exact ⟨hpath.ancestor?_eq, hfirst, hlater, expectation_of_descent hb hpath⟩
  · intro k p hk hpath hnone
    exact expectation_of_unkept hb hk hpath hnone
  · intro k p q hk hpath hparent hbad
    exact expectation_of_broken hb hk hpath hparent hbad
  · exact expectation_ne_pastGenesis hb
  · intro w hsame
    exact boundary_congr hb hsame

/-- The end of the second window of two blocks, over a whole history, over one that lacks
    the block behind the window, and over one that has it at the height of the tip. -/
theorem boundary_expectation_second_window :
    let r : RuleSet := ⟨⟨60, 2, (⟨0x1e0fffff⟩ : Compact).target, false⟩, by decide⟩
    let d : Digest := ⟨List.replicate 32 1, by decide⟩
    let behind : Placed := ⟨.lone 1030 ⟨0x1e0ffff0⟩, 1⟩
    let first : Placed := ⟨.lone 1060 ⟨0x1e0ffff0⟩, 2⟩
    let tip : Placed := ⟨⟨1, d, .zero, 1090, ⟨0x1e0ffff0⟩, 0⟩, 3⟩
    let candidate := Header.lone 1120 ⟨0x1e0ffff0⟩
    r.isBoundary tip.nextHeight = true ∧
    r.expectation (.ofList [(d, first), (.zero, behind)]) tip candidate =
      .ok (.bits (r.retargeted 1090 1030 ⟨0x1e0ffff0⟩ ⟨0x1e0ffff0⟩)) ∧
    r.expectation (.ofList [(d, first)]) tip candidate = .ok .checkpoint ∧
    r.expectation (.ofList [(d, first), (.zero, tip)]) tip candidate =
      .error (.history (.brokenLink 2 3)) := by
  intro r d behind first tip candidate
  have hb : r.isBoundary tip.nextHeight = true := by decide
  refine ⟨hb, ?_, ?_, ?_⟩
  · have hpath : History.Descends (.ofList [(d, first), (.zero, behind)]) 2 tip behind :=
      ⟨first, by decide, by decide, behind, by decide, by decide, rfl⟩
    exact ((boundary_expectation_by_descent hb).1 behind hpath).2.2.2
  · have hpath : History.Descends (.ofList [(d, first)]) 1 tip first :=
      ⟨first, by decide, by decide, rfl⟩
    exact (boundary_expectation_by_descent hb).2.1 1 first (by decide) hpath (by decide)
  · have hpath : History.Descends (.ofList [(d, first), (.zero, tip)]) 1 tip first :=
      ⟨first, by decide, by decide, rfl⟩
    exact (boundary_expectation_by_descent hb).2.2.1 1 first tip (by decide) hpath (by decide)
      (by decide)

/-! Links that contradict the heights. -/

/-- A parent that the rules ask for and find at any other height than one below its child
    is reported at the end of a window, and only there: stall relief walks on. -/
theorem contradiction_reported_iff (hask : r.Asks v tip candidate child)
    (hparent : v.parent? child = some parent)
    (hbad : parent.height.toNat + 1 ≠ child.height.toNat) :
    r.expectation v tip candidate =
        .error (.history (.brokenLink child.height parent.height)) ↔
      r.isBoundary tip.nextHeight = true := by
  cases hask with
  | atBoundary k hb hk hpath =>
    rw [expectation_of_broken hb hk hpath hparent hbad]
    exact iff_of_true rfl hb
  | forRelief k hb hflag hearly hpath hrel =>
    rw [hb]
    rcases stops_or_endless r v tip with ⟨q, hstop⟩ | hlong
    · rw [expectation_of_stop hb hflag hearly hstop]
      simp
    · rw [expectation_of_endless hb hflag hearly hlong]
      simp

/-- The production network, with the parent of the tip five heights down. -/
theorem contradiction_reported_at_boundary :
    let r := ofNetwork .production
    let parent : Placed := ⟨.lone 990 ⟨0x1e0ffff0⟩, 1⟩
    let tip : Placed := ⟨.lone 1000 ⟨0x1e0ffff0⟩, 6⟩
    let v := History.ofList [(.zero, parent)]
    v.parent? tip = some parent ∧
    r.expectation v tip (.lone 1010 ⟨0x1e0ffff0⟩) = .error (.history (.brokenLink 6 1)) := by
  intro r parent tip v
  have hb : r.isBoundary tip.nextHeight = true := by decide
  have hparent : v.parent? tip = some parent := by decide
  have hask : r.Asks v tip (.lone 1010 ⟨0x1e0ffff0⟩) tip := .atBoundary 0 hb (by decide) rfl
  exact ⟨hparent, (contradiction_reported_iff hask hparent (by decide)).mpr hb⟩

/-- Inside a window of four blocks stall relief takes the word of a parent that stands four
    heights below its child, and nothing is reported. -/
theorem contradiction_passed_over :
    ¬ ∀ (r : RuleSet) (v : History) (tip : Placed) (candidate : Header) (child parent : Placed),
      r.Asks v tip candidate child → v.parent? child = some parent →
      parent.height.toNat + 1 ≠ child.height.toNat →
      ∃ cause, r.expectation v tip candidate = .error (.history cause) := by
  intro h
  let r : RuleSet := ⟨⟨40, 4, (⟨0x1e0fffff⟩ : Compact).target, true⟩, by decide⟩
  let parent : Placed := ⟨.lone 990 ⟨0x1e0aaaaa⟩, 2⟩
  let tip : Placed := ⟨.lone 1000 ⟨0x1e0fffff⟩, 6⟩
  let v := History.ofList [(.zero, parent)]
  have hb : r.isBoundary tip.nextHeight = false := by decide
  have hrel : r.isRelieved tip = true := by decide +kernel
  have hparent : v.parent? tip = some parent := by decide
  obtain ⟨cause, hcause⟩ := h r v tip (.lone 1010 ⟨0x1e0aaaaa⟩) tip parent
    (.forRelief 0 hb rfl (by decide) rfl hrel) hparent (by decide)
  have hstop : r.StopsAt v tip parent :=
    ⟨1, ⟨parent, hparent, hrel, rfl⟩, fun hp => absurd hp (by decide +kernel)⟩
  rw [expectation_of_stop hb rfl (by decide) hstop] at hcause
  cases hcause

/-! More history. -/

/-- A history that keeps whatever another one keeps gives the same answer, faults included,
    unless the other one's answer is an open target, or the limit inside a window with
    stall relief: those two it may have given for want of history. -/
theorem expectation_of_more_history (hmore : ∀ d p, v d = some p → w d = some p)
    (hclosed : r.expectation v tip candidate ≠ .ok .checkpoint)
    (hlimit : r.isBoundary tip.nextHeight = false → r.schedule.stallRelief = true →
      r.expectation v tip candidate ≠ .ok (.bits r.limitBits)) :
    r.expectation w tip candidate = r.expectation v tip candidate := by
  apply expectation_congr
  intro child hask
  cases hparent : v.parent? child with
  | some parent => exact hmore _ _ hparent
  | none =>
    have hopen := hask.expectation_of_unkept hparent
    cases hask with
    | atBoundary k hb hk hpath =>
      rw [hb] at hopen
      exact absurd hopen hclosed
    | forRelief k hb hflag hearly hpath hrel =>
      rw [hb] at hopen
      exact absurd hopen (hlimit hb hflag)

/-- A link that contradicts the heights is reported over a longer history too. -/
theorem fault_of_more_history :
    let r := ofNetwork .production
    let parent : Placed := ⟨.lone 990 ⟨0x1e0ffff0⟩, 1⟩
    let tip : Placed := ⟨.lone 1000 ⟨0x1e0ffff0⟩, 6⟩
    let d : Digest := ⟨List.replicate 32 1, by decide⟩
    r.expectation (.ofList [(d, tip), (.zero, parent)]) tip (.lone 1010 ⟨0x1e0ffff0⟩) =
      .error (.history (.brokenLink 6 1)) := by
  intro r parent tip d
  have hshort : r.expectation (.ofList [(.zero, parent)]) tip (.lone 1010 ⟨0x1e0ffff0⟩) =
      .error (.history (.brokenLink 6 1)) := by decide +kernel
  rw [← hshort]
  apply expectation_of_more_history
  · intro e p he
    by_cases hz : e = .zero
    · subst hz
      exact he
    · have hb : (e == Digest.zero) = false := beq_false_of_ne hz
      simp [History.ofList, List.lookup_cons, hb] at he
  · rw [hshort]
    simp
  · rw [hshort]
    simp

end RuleSet

end Retargeting
