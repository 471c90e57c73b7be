import Retargeting.Proofs.Precision
import Retargeting.Rules.Expectation

/- What the next block may declare. Inside a window the rules ask for one word,
   whatever the block declares. At the end of a window they ask for the target that
   the window's time gives, but only to the precision of the block's own declaration;
   so a block is accepted exactly when its word declares that target, and there may be
   several such words. None of them is easier than the target, and as long as the
   target's length fits its byte the easiest is its encoding. A block that declares what
   the rules answered to another declaration may be refused, if that one's window hid
   what its own shows. -/
namespace Retargeting

/-- A header whose parent has the hash zero. -/
def Header.lone (time : UInt32) (bits : Compact) : Header := ⟨1, .zero, .zero, time, bits, 0⟩

namespace RuleSet
variable (r : RuleSet) (v : History) (tip : Placed) (candidate : Header)

/-! The expectation and the verdict, by the kind of height. -/

theorem verdict_eq_valid_iff :
    r.verdict v tip candidate = .ok .valid ↔
      r.expectation v tip candidate = .ok .checkpoint ∨
      r.expectation v tip candidate = .ok (.bits candidate.bits) := by
  unfold verdict
  cases r.expectation v tip candidate with
  | error fault => simp [Except.map]
  | ok e =>
    cases e with
    | checkpoint => simp [Except.map, judge]
    | bits expected => by_cases h : expected = candidate.bits <;> simp [Except.map, judge, h]

/-- Inside a window the expectation does not read what the block declares. -/
theorem expectation_inside (h : r.isBoundary tip.nextHeight = false) (c : Compact) :
    r.expectation v tip { candidate with bits := c } = r.expectation v tip candidate := by
  simp only [expectation, h, Bool.false_eq_true, if_false, reliefBits, relief]

variable {r v tip}

theorem expectation_boundary {anchor : Placed} (hb : r.isBoundary tip.nextHeight = true)
    (ha : v.anchor? tip (r.lookback tip.nextHeight) = .ok (some anchor)) :
    r.expectation v tip candidate =
      .ok (.bits (r.retargeted tip.time anchor.time tip.bits candidate.bits)) := by
  unfold expectation boundaryExpectation
  rw [hb, ha]
  rfl

/-- An expectation at the end of a window comes from the window's anchor. -/
theorem anchor_of_expectation (hb : r.isBoundary tip.nextHeight = true) {e : Expectation}
    (he : e ≠ .checkpoint) (h : r.expectation v tip candidate = .ok e) :
    ∃ anchor, v.anchor? tip (r.lookback tip.nextHeight) = .ok (some anchor) ∧
      e = .bits (r.retargeted tip.time anchor.time tip.bits candidate.bits) := by
  simp only [expectation, boundaryExpectation, hb, if_true] at h
  cases ha : v.anchor? tip (r.lookback tip.nextHeight) with
  | error fault =>
    rw [ha] at h
    cases h
  | ok found =>
    rw [ha] at h
    cases found with
    | none => exact absurd (Except.ok.inj h).symm he
    | some anchor => exact ⟨anchor, rfl, (Except.ok.inj h).symm⟩

/-- At the end of a window a block is accepted if it declares the scaled target. -/
theorem verdict_boundary_iff {anchor : Placed} (hb : r.isBoundary tip.nextHeight = true)
    (ha : v.anchor? tip (r.lookback tip.nextHeight) = .ok (some anchor)) :
    r.verdict v tip candidate = .ok .valid ↔
      candidate.bits.Declares (r.scaledTarget tip.time anchor.time tip.bits) := by
  rw [verdict_eq_valid_iff, expectation_boundary candidate hb ha]
  simp [retargeted, Compact.Declares]

/-! What is accepted at the end of a window. -/

/-- At the end of a window, with `due` the old target scaled by the counted time and
    capped: a block is accepted when its word is canonical and stands for what its own
    window shows of `due`. So no block is accepted for an easier target; and while the
    length of `due` fits its byte, the encoding of `due` is accepted and every other
    accepted word stands for less. -/
theorem boundary_declarations {anchor : Placed} (hb : r.isBoundary tip.nextHeight = true)
    (ha : v.anchor? tip (r.lookback tip.nextHeight) = .ok (some anchor)) :
    let due := min (tip.bits.target *
      (countedTimespan tip.time anchor.time r.schedule.timespan).toNat / r.timespan) r.limit
    (∀ c : Compact, r.verdict v tip { candidate with bits := c } = .ok .valid ↔
      Compact.ofTarget c.target = c ∧ c.target = due &&& c.precision) ∧
    (∀ c : Compact, r.verdict v tip { candidate with bits := c } = .ok .valid →
      c.target ≤ due) ∧
    (due < 2 ^ 2039 →
      r.verdict v tip { candidate with bits := .ofTarget due } = .ok .valid ∧
      ∀ c : Compact, r.verdict v tip { candidate with bits := c } = .ok .valid →
        c ≠ .ofTarget due → c.target < (Compact.ofTarget due).target) := by
  intro due
  have hdec : ∀ c : Compact, r.verdict v tip { candidate with bits := c } = .ok .valid ↔
      c.Declares due := fun c => verdict_boundary_iff { candidate with bits := c } hb ha
  refine ⟨?_, ?_, ?_⟩
  · intro c
    rw [hdec]
    exact c.declares_iff due
  · intro c hc
    exact ((hdec c).mp hc).target_le
  · intro hfit
    refine ⟨(hdec _).mpr (Compact.declares_ofTarget hfit), ?_⟩
    intro c hc hne
    exact ((hdec c).mp hc).target_lt_ofTarget hfit hne

/-- The third block of a production chain, where the window's target has the bytes
    `0f 77 76 80` in front: it may declare the first three of them, or the last three. -/
theorem boundary_declarations_third_block :
    let r := ofNetwork .production
    let first : Placed := ⟨.lone 1000 ⟨0x1e0fffff⟩, 0⟩
    let tip : Placed := ⟨.lone 1029 ⟨0x1e0fffff⟩, 1⟩
    let v := History.ofList [(.zero, first)]
    r.isBoundary tip.nextHeight = true ∧
    v.anchor? tip (r.lookback tip.nextHeight) = .ok (some first) ∧
    r.verdict v tip (.lone 1058 ⟨0x1e0f7776⟩) = .ok .valid ∧
    r.verdict v tip (.lone 1058 ⟨0x1d777680⟩) = .ok .valid := by
  intro r first tip v
  have hb : r.isBoundary tip.nextHeight = true := by decide
  have ha : v.anchor? tip (r.lookback tip.nextHeight) = .ok (some first) := by decide
  have hall := (boundary_declarations (.lone 1058 tip.bits) hb ha).1
  refine ⟨hb, ha, ?_, ?_⟩
  · exact (hall ⟨0x1e0f7776⟩).mpr (by decide +kernel)
  · exact (hall ⟨0x1d777680⟩).mpr (by decide +kernel)

/-! Asking first, and declaring the answer. -/

/-- A block may declare what the rules answered to another declaration, inside a window
    always; at the end of a window when the length of the answer fits its byte and the
    answer's window shows nothing of the due target that the asking one's hid. So it
    may whenever the answer has the length that was asked with. -/
theorem answered_bits_accepted_iff {b : Compact}
    (h : r.expectation v tip candidate = .ok (.bits b)) :
    (r.isBoundary tip.nextHeight = false →
      r.verdict v tip { candidate with bits := b } = .ok .valid) ∧
    (r.isBoundary tip.nextHeight = true → ∃ anchor : Placed,
      v.anchor? tip (r.lookback tip.nextHeight) = .ok (some anchor) ∧
      let due := r.scaledTarget tip.time anchor.time tip.bits
      (r.verdict v tip { candidate with bits := b } = .ok .valid ↔
        due &&& candidate.bits.precision < 2 ^ 2039 ∧
        due &&& b.precision &&& candidate.bits.precision = due &&& b.precision)) ∧
    (b.size = candidate.bits.size →
      r.verdict v tip { candidate with bits := b } = .ok .valid) := by
  cases hb : r.isBoundary tip.nextHeight with
  | false =>
    have hvalid : r.verdict v tip { candidate with bits := b } = .ok .valid := by
      rw [verdict_eq_valid_iff, expectation_inside _ _ _ _ hb]
      exact Or.inr h
    exact ⟨fun _ => hvalid, nofun, fun _ => hvalid⟩
  | true =>
    obtain ⟨anchor, ha, he⟩ := anchor_of_expectation candidate hb (by simp) h
    simp only [Expectation.bits.injEq, retargeted] at he
    have hdec := verdict_boundary_iff { candidate with bits := b } hb ha
    refine ⟨nofun, fun _ => ⟨anchor, ha, ?_⟩, ?_⟩
    · subst he
      rw [hdec, Compact.declares_and_precision_iff]
    · -- windows of one length are one window, so the answer is its own answer
      intro hsize
      rw [hdec]
      show Compact.ofTarget (_ &&& b.precision) = b
      rw [Compact.precision_congr hsize, ← he]

/-- The rules of the production network, asked by a block that declares a length of 31
    bytes, answer with a word of length 30, but want another one of that length. -/
theorem answered_bits_refused :
    ¬ ∀ (r : RuleSet) (v : History) (tip : Placed) (candidate : Header) (b : Compact),
      r.expectation v tip candidate = .ok (.bits b) →
      r.verdict v tip { candidate with bits := b } = .ok .valid := by
  intro h
  have hasked := h (ofNetwork .production) (fun _ => none) ⟨.lone 1000 ⟨0x1e0e0000⟩, 0⟩
    (.lone 1030 ⟨0x1f000000⟩) ⟨0x1e034400⟩ (by decide +kernel)
  exact absurd hasked (by decide +kernel)

/-- Asked with a length of 30 bytes, the same rules answer with a word that they accept. -/
theorem answered_bits_accepted_same_length :
    let r := ofNetwork .production
    let tip : Placed := ⟨.lone 1000 ⟨0x1e0e0000⟩, 0⟩
    r.expectation (fun _ => none) tip (.lone 1030 ⟨0x1e000000⟩) =
      .ok (.bits ⟨0x1e034444⟩) ∧
    r.verdict (fun _ => none) tip (.lone 1030 ⟨0x1e034444⟩) = .ok .valid := by
  intro r tip
  have hasked : r.expectation (fun _ => none) tip (.lone 1030 ⟨0x1e000000⟩) =
      .ok (.bits ⟨0x1e034444⟩) := by decide +kernel
  exact ⟨hasked, (answered_bits_accepted_iff _ hasked).2.2 (by decide)⟩

/-! Two declarations after one history. -/

/-- Two blocks that differ in their words only and are both accepted, history reaching
    back far enough: inside a window they declare the same word, and at its end they do
    if they declare the same length. Else the shorter word stands for less. -/
theorem accepted_declarations_by_size {c d : Compact}
    (hc : r.expectation v tip { candidate with bits := c } ≠ .ok .checkpoint)
    (hd : r.expectation v tip { candidate with bits := d } ≠ .ok .checkpoint)
    (vc : r.verdict v tip { candidate with bits := c } = .ok .valid)
    (vd : r.verdict v tip { candidate with bits := d } = .ok .valid) :
    (r.isBoundary tip.nextHeight = false → c = d) ∧
    (c.size = d.size → c = d) ∧
    (c.target < d.target ↔ c.size < d.size) := by
  have ec := ((verdict_eq_valid_iff _ _ _ _).mp vc).resolve_left hc
  have ed := ((verdict_eq_valid_iff _ _ _ _).mp vd).resolve_left hd
  cases hb : r.isBoundary tip.nextHeight with
  | false =>
    rw [expectation_inside _ _ _ _ hb] at ec ed
    rw [ec] at ed
    simp only [Except.ok.injEq, Expectation.bits.injEq] at ed
    subst ed
    exact ⟨fun _ => rfl, fun _ => rfl, by simp⟩
  | true =>
    obtain ⟨anchor, ha, _⟩ := anchor_of_expectation _ hb (by simp) ec
    have hcd := (verdict_boundary_iff _ hb ha).mp vc
    have hdd := (verdict_boundary_iff _ hb ha).mp vd
    exact ⟨nofun, hcd.eq_of_size hdd, hcd.target_lt_iff hdd⟩

/-- After this first block of a production chain the due target has the bytes
    `03 44 44 44` in front, and two words are accepted for it. -/
theorem two_declarations_accepted :
    ¬ ∀ (r : RuleSet) (v : History) (tip : Placed) (candidate : Header) (c d : Compact),
      r.expectation v tip { candidate with bits := c } ≠ .ok .checkpoint →
      r.expectation v tip { candidate with bits := d } ≠ .ok .checkpoint →
      r.verdict v tip { candidate with bits := c } = .ok .valid →
      r.verdict v tip { candidate with bits := d } = .ok .valid → c = d := by
  intro h
  have hsame := h (ofNetwork .production) (fun _ => none) ⟨.lone 1000 ⟨0x1e0e0000⟩, 0⟩
    (.lone 1030 ⟨0⟩) ⟨0x1e034444⟩ ⟨0x1d444444⟩ (by decide +kernel) (by decide +kernel)
    (by decide +kernel) (by decide +kernel)
  exact absurd hsame (by decide)

/-- The same two words: the shorter one stands for less. -/
theorem accepted_declarations_by_size_first_block :
    let r := ofNetwork .production
    let tip : Placed := ⟨.lone 1000 ⟨0x1e0e0000⟩, 0⟩
    r.verdict (fun _ => none) tip (.lone 1030 ⟨0x1d444444⟩) = .ok .valid ∧
    r.verdict (fun _ => none) tip (.lone 1030 ⟨0x1e034444⟩) = .ok .valid ∧
    (⟨0x1d444444⟩ : Compact).target < (⟨0x1e034444⟩ : Compact).target := by
  intro r tip
  have vc : r.verdict (fun _ => none) tip (.lone 1030 ⟨0x1d444444⟩) = .ok .valid := by
    decide +kernel
  have vd : r.verdict (fun _ => none) tip (.lone 1030 ⟨0x1e034444⟩) = .ok .valid := by
    decide +kernel
  have hsize := (accepted_declarations_by_size (.lone 1030 ⟨0⟩) (by decide +kernel)
    (by decide +kernel) vc vd).2.2
  exact ⟨vc, vd, hsize.mpr (by decide)⟩

end RuleSet

end Retargeting
