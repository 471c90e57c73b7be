import Retargeting.Proofs.Lookups
import Retargeting.Proofs.MainChain

/- Nodes that keep to the rules. Such a node takes a first header as it is; from then on it
   pushes a header only if the rules expect, on top of the tip, the very word that the header
   declares, and it prunes as it likes. What the rules answer is a word that was kept
   before, or the encoding of a number that the limit caps, and encoding only rounds down:
   so no header that is kept is ever easier than the limit. Stall relief inside a window
   answers with the limit for a late header, and for any other with the word of the last
   header that owes nothing to relief. Nothing records which headers were late, but the
   walk that finds that header passes headers at the limit only, so it comes out at the word
   of the window's first header, however many late ones lie in between. -/
namespace Retargeting

namespace RuleSet

/-! Runs that the rules admit. -/

/-- A push is admitted if the rules expect the word that the header declares, on top of the
    tip. Pruning is up to the node. -/
def Admits (r : RuleSet) (s : Store) : Store.Op → Prop
  | .push h => ∃ tip, s.tip? = some tip ∧ r.expectation s.history tip h = .ok (.bits h.bits)
  | .prune _ => True

/-- Every operation of a run is admitted in the store that it comes to. -/
def AdmitsAll (r : RuleSet) (s : Store) : List Store.Op → Prop
  | [] => True
  | op :: ops => r.Admits s op ∧ r.AdmitsAll (s.after op) ops

theorem admitsAll_append_iff {r : RuleSet} {s : Store} {ops more : List Store.Op} :
    r.AdmitsAll s (ops ++ more) ↔ r.AdmitsAll s ops ∧ r.AdmitsAll (s.run ops) more := by
  induction ops generalizing s with
  | nil => simp [AdmitsAll, Store.run]
  | cons op ops ih =>
    rw [List.cons_append, AdmitsAll, AdmitsAll, ih, Store.run_cons, and_assoc]

end RuleSet

/-! The limit. -/

/-- A word without a sign, for a target that is no easier than a limit. -/
def Compact.Within (c : Compact) (limit : Nat) : Prop := c.sign = false ∧ c.target ≤ limit

theorem Compact.within_ofTarget {t limit : Nat} (h : t ≤ limit) :
    (Compact.ofTarget t).Within limit :=
  ⟨sign_ofTarget t, Nat.le_trans (target_ofTarget_le t) h⟩

namespace RuleSet
variable {r : RuleSet} {v : History} {tip : Placed} {candidate : Header} {s : Store}

theorem within_retargeted (last first : UInt32) (old declared : Compact) :
    (r.retargeted last first old declared).Within r.limit :=
  Compact.within_ofTarget (Nat.le_trans Nat.and_le_left (r.scaledTarget_le_limit last first old))

/-- Over headers within the limit the rules answer with words within the limit. -/
theorem within_of_expectation {b : Compact} (htip : tip.bits.Within r.limit)
    (hkept : ∀ d p, v d = some p → p.bits.Within r.limit)
    (h : r.expectation v tip candidate = .ok (.bits b)) : b.Within r.limit := by
  have hlimit : r.limitBits.Within r.limit := Compact.within_ofTarget (Nat.le_refl _)
  cases hb : r.isBoundary tip.nextHeight with
  | true =>
    obtain ⟨anchor, _, he⟩ := anchor_of_expectation candidate hb (by simp) h
    cases he
    exact within_retargeted _ _ _ _
  | false =>
    cases hflag : r.schedule.stallRelief with
    | false =>
      simp only [expectation_inside_eq hb, hflag, Bool.false_eq_true, if_false] at h
      cases h
      exact htip
    | true =>
      rcases Nat.lt_or_ge (r.stallLimit tip) candidate.time.toNat with hlate | hearly
      · rw [expectation_of_late hb hflag hlate] at h
        cases h
        exact hlimit
      · rcases stops_or_endless r v tip with ⟨q, hstop⟩ | hlong
        · rw [expectation_of_stop hb hflag hearly hstop] at h
          cases h
          obtain ⟨n, hpath, _⟩ := hstop
          rcases hpath.eq_or_kept with rfl | ⟨d, hd⟩
          · exact htip
          · exact hkept d q hd
        · rw [expectation_of_endless hb hflag hearly hlong] at h
          cases h

/-- One operation that is admitted. -/
theorem within_after {op : Store.Op} (hadm : r.Admits s op)
    (hkept : ∀ d p, s.history d = some p → p.bits.Within r.limit) :
    ∀ d p, (s.after op).history d = some p → p.bits.Within r.limit := by
  intro d p hp
  cases op with
  | prune height =>
    rw [Store.after, Store.history_prune, Option.filter_eq_some_iff] at hp
    exact hkept d p hp.1
  | push h =>
    rcases s.push_cases h with ⟨fault, _, _, hafter⟩ | ⟨q, hplace, _, hafter⟩
    · rw [hafter] at hp
      exact hkept d p hp
    · rw [hafter, Store.history_insert] at hp
      split at hp
      · cases hp
        obtain ⟨tip, htip, hexpected⟩ := hadm
        obtain ⟨e, _, he⟩ := Store.tip?_eq_some_iff.mp htip
        have hnew := within_of_expectation (hkept e tip he) hkept hexpected
        rw [← Store.header_of_placeNext hplace] at hnew
        exact hnew
      · exact hkept d p hp

theorem within_run {ops : List Store.Op} (hadm : r.AdmitsAll s ops)
    (hkept : ∀ d p, s.history d = some p → p.bits.Within r.limit) :
    ∀ d p, (s.run ops).history d = some p → p.bits.Within r.limit := by
  induction ops generalizing s with
  | nil => exact hkept
  | cons op ops ih => exact ih hadm.2 (within_after hadm.1 hkept)

/-- From a first header within the limit on, whatever is pushed with the word that the rules
    expect, and whatever is pruned: in every state, every header that is kept declares a
    target no easier than the limit, without a sign. The limit may be of any size. -/
theorem kept_headers_within_limit {first : Header} {ops : List Store.Op}
    (hsign : first.bits.sign = false) (hlimit : first.bits.target ≤ r.limit)
    (hadm : r.AdmitsAll (Store.after ∅ (.push first)) ops) :
    ∀ before, before <+: ops → ∀ d p,
      ((Store.after ∅ (.push first)).run before).history d = some p →
        p.bits.sign = false ∧ p.bits.target ≤ r.limit := by
  rintro before ⟨later, rfl⟩
  apply within_run (admitsAll_append_iff.mp hadm).1
  intro d p hp
  rw [Store.after_push_empty, Store.history_insert, Store.history_empty] at hp
  split at hp
  · cases hp
    exact ⟨hsign, hlimit⟩
  · cases hp

/-- A late header under a limit of 286 bytes: the length byte of the limit's encoding wraps,
    and the header declares a target of thirty. What comes before it is pruned. -/
theorem late_header_within_wide_limit :
    let r : RuleSet := ⟨⟨60, 2, 0x0fffff <<< 2264, true⟩, by decide +kernel⟩
    let first := Header.lone 1000 ⟨0x1e0ffff0⟩
    let late := first.onTop 2000 ⟨0x1e0fffff⟩
    let ops : List Store.Op := [.push late, .prune 1]
    r.AdmitsAll (Store.after ∅ (.push first)) ops ∧
    ((Store.after ∅ (.push first)).run ops).history late.hash = some ⟨late, 1⟩ ∧
    late.bits.sign = false ∧ late.bits.target ≤ r.limit := by
  intro r first late ops
  have hlimit : r.limitBits = late.bits := by decide +kernel
  have hadm : r.AdmitsAll (Store.after ∅ (.push first)) ops := by
    have htip : (Store.after ∅ (.push first)).tip? = some ⟨first, 0⟩ := by
      rw [Store.after_push_empty]
      exact Store.tip?_insert_of_above rfl
    refine ⟨⟨⟨first, 0⟩, htip, ?_⟩, trivial, trivial⟩
    rw [expectation_of_late (by decide) rfl (by decide), hlimit]
  have hkept : ((Store.after ∅ (.push first)).run ops).history late.hash = some ⟨late, 1⟩ := by
    decide +kernel
  exact ⟨hadm, hkept, kept_headers_within_limit (by decide) (by decide +kernel) hadm ops
    List.prefix_rfl late.hash ⟨late, 1⟩ hkept⟩

/-! The word of a window. -/

end RuleSet

end Retargeting
