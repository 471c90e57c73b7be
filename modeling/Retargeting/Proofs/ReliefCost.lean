import Mathlib.Logic.Relation
import Mathlib.Tactic.Tauto
import Retargeting.Proofs.Indexes

/- What stall relief looks up. The rule is run here on look-ups that leave a log, which
   changes nothing of what it answers. The walk looks up a parent for every header that it
   passes, and one more in vain where it stops for want of a parent. So whatever bounds the
   paths through relieved headers bounds the look-ups, and makes the walk end. Where heights
   go down by one with every parent, a path stays in the tip's window and is no longer than
   the way to the window's first block. Where heights say nothing, as in a store of headers
   that were inserted at any heights, a path of relieved headers that does not come round
   is no longer than the store is large. -/
namespace Retargeting

/-! Look-ups that are logged. -/

/-- A look-up that leaves its digest in a log. -/
def History.logged (v : History) (d : Digest) : StateM (List Digest) (Option Placed) :=
  fun log => (v d, log ++ [d])

theorem History.run_logged (v : History) (p : Placed) (log : List Digest) :
    (v.logged p.header.parent).run log = (v.parent? p, log ++ [p.header.parent]) := rfl

namespace RuleSet

/-- What relief answers, and the digests that it looks up for the answer, one by one. -/
def loggedRelief (r : RuleSet) (v : History) (tip : Placed) (candidate : Header) :
    Except Fault Compact × List Digest :=
  (r.relief v.logged tip candidate).run []

section
variable {r : RuleSet} {v : History} {tip p q : Placed} {candidate : Header} {k n bound : Nat}

/-! One header of the walk. -/

theorem run_walk_of_unrelieved (log : List Digest) (hfree : ¬r.isRelieved p = true) :
    (r.walk v.logged (n + 1) p).run log = (some p, log) := by
  rw [walk, if_neg hfree]
  rfl

theorem run_walk_of_unkept (log : List Digest) (hrel : r.isRelieved p = true)
    (hnone : v.parent? p = none) :
    (r.walk v.logged (n + 1) p).run log = (some p, log ++ [p.header.parent]) := by
  rw [walk, if_pos hrel, StateT.run_bind, History.run_logged, hnone]
  rfl

theorem run_walk_of_kept (log : List Digest) (hrel : r.isRelieved p = true)
    (hq : v.parent? p = some q) :
    (r.walk v.logged (n + 1) p).run log =
      (r.walk v.logged n q).run (log ++ [p.header.parent]) := by
  rw [walk, if_pos hrel, StateT.run_bind, History.run_logged, hq]
  rfl

/-! A whole walk. -/

/-- The log changes nothing of what the walk returns. -/
theorem run_walk_fst (log : List Digest) :
    ((r.walk v.logged n p).run log).1 = r.unrelieved? v n p := by
  induction n generalizing p log with
  | zero => rfl
  | succ n ih =>
    by_cases hrel : r.isRelieved p = true
    · cases hp : v.parent? p with
      | none => rw [run_walk_of_unkept log hrel hp, unrelieved?_of_unkept hrel hp]
      | some q => rw [run_walk_of_kept log hrel hp, unrelieved?_of_kept hrel hp, ih]
    · rw [run_walk_of_unrelieved log hrel, unrelieved?_of_unrelieved hrel]

/-- A walk that stops has looked up a parent for every header that it passed, and one in vain
    if it stops for want of a parent. -/
theorem run_walk_of_stop (log : List Digest) (hpath : r.Passes v k p q)
    (hstop : r.isRelieved q = true → v.parent? q = none) (hk : k < n) :
    ∃ asked, (r.walk v.logged n p).run log = (some q, log ++ asked) ∧
      asked.length = k + (r.isRelieved q).toNat := by
  obtain ⟨n, rfl⟩ : ∃ m, n = m + 1 := ⟨n - 1, by omega⟩
  induction k generalizing p log n with
  | zero =>
    obtain rfl : p = q := hpath
    cases hrel : r.isRelieved p with
    | false =>
      refine ⟨[], ?_, rfl⟩
      rw [run_walk_of_unrelieved log (by rw [hrel]; decide), List.append_nil]
    | true => exact ⟨[p.header.parent], run_walk_of_unkept log hrel (hstop hrel), rfl⟩
  | succ k ih =>
    obtain ⟨x, hx, hrel, hpath⟩ := hpath
    obtain ⟨n, rfl⟩ : ∃ m, n = m + 1 := ⟨n - 1, by omega⟩
    obtain ⟨asked, hrun, hlen⟩ := ih (log ++ [p.header.parent]) hpath n (by omega)
    refine ⟨p.header.parent :: asked, ?_, ?_⟩
    · rw [run_walk_of_kept log hrel hx, hrun, List.append_assoc, List.singleton_append]
    · rw [List.length_cons, hlen]
      omega

/-! The rule. -/

/-- The log changes nothing of what relief answers. -/
theorem loggedRelief_fst : (r.loggedRelief v tip candidate).1 = r.reliefBits v tip candidate := by
  unfold loggedRelief relief
  split
  · next hlate =>
    rw [reliefBits_of_late hlate]
    rfl
  · next hearly =>
    have hwalk : ((r.walk v.logged (digestCount + 1) tip).run []).1 =
        r.unrelieved? v (digestCount + 1) tip := run_walk_fst []
    rw [StateT.run_bind]
    generalize (r.walk v.logged (digestCount + 1) tip).run [] = run at hwalk ⊢
    obtain ⟨found, log⟩ := run
    cases found with
    | some p => exact (reliefBits_of_unrelieved (Nat.not_lt.mp hearly) hwalk.symm).symm
    | none => exact (reliefBits_of_endless (Nat.not_lt.mp hearly) hwalk.symm).symm

/-- A bound on the paths through relieved headers makes the walk end. -/
theorem stop_of_bound (hbound : ∀ k q, r.Passes v k tip q → k ≤ bound) :
    ∃ k q, k ≤ digestCount ∧ r.Passes v k tip q ∧
      (r.isRelieved q = true → v.parent? q = none) := by
  cases hcut : r.unrelieved? v (digestCount + 1) tip with
  | none =>
    obtain ⟨q, hq⟩ := unrelieved?_digestCount_eq_none_iff.mp hcut (bound + 1)
    exact absurd (hbound _ q hq) (Nat.not_succ_le_self bound)
  | some q =>
    obtain ⟨k, hk, hpath, hstop⟩ := unrelieved?_eq_some_iff.mp hcut
    exact ⟨k, q, Nat.le_of_lt_succ hk, hpath, hstop⟩

theorem loggedRelief_of_late (hlate : r.stallLimit tip < candidate.time.toNat) :
    r.loggedRelief v tip candidate = (.ok r.limitBits, []) := by
  unfold loggedRelief relief
  rw [if_pos hlate]
  rfl

section
variable (hk : k ≤ digestCount) (hpath : r.Passes v k tip q)
  (hstop : r.isRelieved q = true → v.parent? q = none)
include hk hpath hstop

/-- For a block that is not late relief takes the word of the header where the walk ends. -/
theorem loggedRelief_of_early (hearly : candidate.time.toNat ≤ r.stallLimit tip) :
    ∃ asked, r.loggedRelief v tip candidate = (.ok q.bits, asked) ∧
      asked.length = k + (r.isRelieved q).toNat := by
  obtain ⟨asked, hrun, hlen⟩ := run_walk_of_stop [] hpath hstop (Nat.lt_succ_of_le hk)
  refine ⟨asked, ?_, hlen⟩
  unfold loggedRelief relief
  rw [if_neg (Nat.not_lt.mpr hearly), StateT.run_bind, hrun]
  rfl

/-- Where the walk ends relief answers, late or not, and looks up no more than the walk does. -/
theorem loggedRelief_of_stop (candidate : Header) :
    ∃ b asked, r.loggedRelief v tip candidate = (.ok b, asked) ∧
      asked.length ≤ k + (r.isRelieved q).toNat := by
  rcases Nat.lt_or_ge (r.stallLimit tip) candidate.time.toNat with hlate | hearly
  · exact ⟨r.limitBits, [], loggedRelief_of_late hlate, Nat.zero_le _⟩
  · obtain ⟨asked, hlog, hlen⟩ := loggedRelief_of_early hk hpath hstop hearly
    exact ⟨q.bits, asked, hlog, Nat.le_of_eq hlen⟩

end

end

end RuleSet

/-! Where heights go down by one. -/

/-- Behind `tip`, a parent that is kept is one height below its child. -/
def History.StepsDown (v : History) (tip : Placed) : Prop :=
  ∀ n p q, v.ancestor? n tip = some p → v.parent? p = some q → OneBelow p q

namespace History.StepsDown
variable {v : History} {p q : Placed}

theorem of_unkept (hnone : v.parent? p = none) : v.StepsDown p := by
  intro n x y hx hy
  cases n with
  | zero =>
    cases hx
    rw [hnone] at hy
    cases hy
  | succ n =>
    rw [ancestor?, hnone] at hx
    cases hx

theorem of_parent (hparent : v.parent? p = some q) (hone : OneBelow p q) (hq : v.StepsDown q) :
    v.StepsDown p := by
  intro n x y hx hy
  cases n with
  | zero =>
    cases hx
    rw [hparent] at hy
    cases hy
    exact hone
  | succ n =>
    rw [ancestor?, hparent, Option.bind_some] at hx
    exact hq n x y hx hy

end History.StepsDown

namespace RuleSet
variable {r : RuleSet} {v : History} {tip p q : Placed} {candidate : Header} {k : Nat}

/-- A header that relief looks no further back from: it begins a window, or does not declare
    the limit, or its parent is not kept. -/
def Ends (r : RuleSet) (v : History) (p : Placed) : Prop :=
  p.height.toNat % r.interval = 0 ∨ p.bits ≠ r.limitBits ∨ v.parent? p = none

theorem ends_iff : r.Ends v p ↔ (r.isRelieved p = true → v.parent? p = none) := by
  rw [isRelieved_iff]
  unfold Ends
  tauto

/-- One height down from inside a window is inside it, or at its first block. -/
theorem window_of_oneBelow (h : History.OneBelow p q) (hp : p.height.toNat % r.interval ≠ 0) :
    q.height.toNat % r.interval + 1 = p.height.toNat % r.interval ∧
      q.height.toNat / r.interval = p.height.toNat / r.interval := by
  have hdiv := Nat.div_add_mod p.height.toNat r.interval
  have hlt := Nat.mod_lt p.height.toNat r.interval_pos
  unfold History.OneBelow at h
  obtain ⟨hquot, hrem⟩ := (Nat.div_mod_unique (a := q.height.toNat)
    (d := p.height.toNat / r.interval) (c := p.height.toNat % r.interval - 1) r.interval_pos).mpr
    ⟨by omega, by omega⟩
  exact ⟨by omega, hquot⟩

/-- Relieved headers that step down lie in one window, each nearer to its first block. -/
theorem window_of_passes (hdown : v.StepsDown tip) (hpath : r.Passes v k tip q) :
    q.height.toNat % r.interval + k = tip.height.toNat % r.interval ∧
      q.height.toNat / r.interval = tip.height.toNat / r.interval := by
  induction k generalizing q with
  | zero =>
    obtain rfl : tip = q := hpath
    exact ⟨rfl, rfl⟩
  | succ k ih =>
    obtain ⟨x, hx, hq, hrel⟩ := History.path_succ_iff.mp hpath
    obtain ⟨hmod, hdiv⟩ := ih hx
    obtain ⟨hmod', hdiv'⟩ := window_of_oneBelow (hdown k x q hx.ancestor?_eq hq)
      (isRelieved_iff.mp hrel).1
    exact ⟨by omega, hdiv'.trans hdiv⟩

/-- A walk does not end before the last header of its path. -/
theorem not_ends_of_passes (hpath : r.Passes v k tip q) {j : Nat} (hj : j < k)
    (hp : v.ancestor? j tip = some p) : ¬r.Ends v p := by
  intro hend
  obtain ⟨x, hx⟩ := hpath.take (Nat.le_of_lt hj)
  obtain ⟨y, hy, hrel⟩ := hpath.next hj hx
  rw [hx.ancestor?_eq, Option.some.injEq] at hp
  subst hp
  rw [ends_iff.mp hend hrel] at hy
  cases hy

/-- Where heights step down from the tip, wherever the history ends: a block that comes more
    than two spacings after the tip may declare the limit. Any other block has the word of the
    nearest header, from the tip backwards, that begins a window, does not declare the limit
    or has no parent that is kept. This header is in the tip's window, and for the answer
    no more parents are looked up than the tip is blocks away from where its window begins. -/
theorem relief_from_nearest (candidate : Header) (hdown : v.StepsDown tip) :
    (tip.time.toNat + 2 * r.spacing < candidate.time.toNat →
      r.reliefBits v tip candidate = .ok r.limitBits) ∧
    (candidate.time.toNat ≤ tip.time.toNat + 2 * r.spacing →
      ∃ n nearest, v.ancestor? n tip = some nearest ∧ r.Ends v nearest ∧
        (∀ k < n, ∀ p, v.ancestor? k tip = some p → ¬r.Ends v p) ∧
        nearest.height.toNat / r.interval = tip.height.toNat / r.interval ∧
        r.reliefBits v tip candidate = .ok nearest.bits) ∧
    (r.loggedRelief v tip candidate).1 = r.reliefBits v tip candidate ∧
    (r.loggedRelief v tip candidate).2.length ≤ tip.height.toNat % r.interval := by
  obtain ⟨n, nearest, hn, hpath, hstop⟩ := stop_of_bound fun k q hpath =>
    Nat.le_of_add_left_le (window_of_passes hdown hpath).1.le
  obtain ⟨hmod, hdiv⟩ := window_of_passes hdown hpath
  refine ⟨fun hlate => ?_, fun hearly => ?_, loggedRelief_fst, ?_⟩
  · rw [← loggedRelief_fst, loggedRelief_of_late hlate]
  · obtain ⟨asked, hlog, _⟩ := loggedRelief_of_early hn hpath hstop hearly
    refine ⟨n, nearest, hpath.ancestor?_eq, ends_iff.mpr hstop, ?_, hdiv, ?_⟩
    · exact fun k hk p => not_ends_of_passes hpath hk
    · rw [← loggedRelief_fst, hlog]
  · obtain ⟨b, asked, hlog, hlen⟩ := loggedRelief_of_stop hn hpath hstop candidate
    -- a look-up in vain is for a header inside the window, so there is a block to spare
    have hspare : (r.isRelieved nearest).toNat ≤ nearest.height.toNat % r.interval := by
      cases hrel : r.isRelieved nearest with
      | false => exact Nat.zero_le _
      | true => exact Nat.pos_of_ne_zero (isRelieved_iff.mp hrel).1
    rw [hlog]
    show asked.length ≤ _
    omega

/-- A window of eight blocks at the end of the range of times, where the history is cut off two
    blocks behind the tip. The tip and its parent declare the limit, the header before them does
    not; the candidate's time is past the bound for a late block only if that wraps. -/
theorem relief_from_nearest_end_of_time :
    let r : RuleSet := ⟨⟨80, 8, (⟨0x1e0fffff⟩ : Compact).target, true⟩, by decide⟩
    let d : Digest := ⟨List.replicate 32 1, by decide⟩
    let unkept : Digest := ⟨List.replicate 32 2, by decide⟩
    let real : Placed := ⟨⟨1, unkept, .zero, 0xffffffe0, ⟨0x1e0aaaaa⟩, 0⟩, 12⟩
    let relieved : Placed := ⟨⟨1, d, .zero, 0xfffffff0, ⟨0x1e0fffff⟩, 0⟩, 13⟩
    let tip : Placed := ⟨.lone 0xfffffffe ⟨0x1e0fffff⟩, 14⟩
    let v := History.ofList [(.zero, relieved), (d, real)]
    let candidate := Header.lone 30 ⟨0x1e0aaaaa⟩
    v.StepsDown tip ∧ r.reliefBits v tip candidate = .ok ⟨0x1e0aaaaa⟩ ∧
    (r.loggedRelief v tip candidate).2.length ≤ 6 := by
  intro r d unkept real relieved tip v candidate
  have hdown : v.StepsDown tip :=
    .of_parent (q := relieved) (by decide) (by decide) <|
      .of_parent (q := real) (by decide) (by decide) <| .of_unkept (by decide)
  obtain ⟨_, hearly, _, hlen⟩ := relief_from_nearest (r := r) candidate hdown
  obtain ⟨n, nearest, hn, hend, hfirst, _, hbits⟩ := hearly (by decide)
  have hpath : r.Passes v 2 tip real :=
    ⟨relieved, by decide, by decide +kernel, real, by decide, by decide +kernel, rfl⟩
  rcases Nat.lt_trichotomy n 2 with hlt | rfl | hgt
  · exact absurd hend (not_ends_of_passes hpath hlt hn)
  · rw [hpath.ancestor?_eq, Option.some.injEq] at hn
    rw [hbits, ← hn]
    exact ⟨hdown, rfl, Nat.le_trans hlen (by decide +kernel)⟩
  · exact absurd (Or.inr (Or.inl (by decide +kernel))) (hfirst 2 hgt real hpath.ancestor?_eq)

end RuleSet

/-! Where heights say nothing. -/

namespace Store
variable {s : Store} {tip p q : Placed} {allowed : Placed → Placed → Prop} {n : Nat}

/-- `q` is the header that `p` names as its parent, among those that are kept and the tip. -/
def Links (s : Store) (tip p q : Placed) : Prop :=
  p.header.parent = q.hash ∧ (q = tip ∨ s.history q.hash = some q)

/-- In a store that keeps headers under their hashes, a look-up follows a link. -/
theorem Sound.links (hs : s.Sound) (h : s.history.parent? p = some q) : s.Links tip p q := by
  have hhash : q.hash = p.header.parent := hs.hash_eq h
  refine ⟨hhash.symm, Or.inr ?_⟩
  rw [hhash]
  exact h

theorem Sound.transGen_links (hs : s.Sound) (h : s.history.Path allowed (n + 1) p q) :
    Relation.TransGen (s.Links tip) p q := by
  induction n generalizing p with
  | zero =>
    obtain ⟨hq, _⟩ := History.path_one_iff.mp h
    exact .single (hs.links hq)
  | succ n ih =>
    obtain ⟨x, hx, _, hpath⟩ := h
    exact .head (hs.links hx) (ih hpath)

/-- A path that does not come round is no longer than the store is large. -/
theorem Sound.path_le_size (hs : s.Sound) (hacyclic : ∀ x, ¬Relation.TransGen (s.Links tip) x x)
    (hpath : s.history.Path allowed n p q) : n ≤ s.size := by
  by_contra hlong
  have hcard : s.byHash.keys.toFinset.card < n := by
    calc s.byHash.keys.toFinset.card ≤ s.byHash.keys.length := List.toFinset_card_le _
      _ = s.size := s.length_keys
      _ < n := Nat.lt_of_not_le hlong
  have hkept : ∀ d p, s.history d = some p → d ∈ s.byHash.keys.toFinset :=
    fun _ p hp => List.mem_toFinset.mpr (mem_keys_iff.mpr ⟨p, hp⟩)
  obtain ⟨_, _, x, _, hround⟩ := hpath.comes_round _ hkept hcard
  exact hacyclic x (hs.transGen_links hround)

end Store

namespace RuleSet
variable {r : RuleSet} {tip : Placed} {candidate : Header}

/-- In any state of a store, whatever was inserted, pushed and pruned and at whatever heights,
    and for any tip: if no header that is kept, nor the tip, is its own ancestor, the walk
    ends. Relief answers then, and for the answer looks up no more parents than there are
    headers in the store, and one. -/
theorem relief_ends_within_size {edits : List Store.Edit} (candidate : Header)
    (hacyclic : ∀ p, ¬Relation.TransGen ((Store.editAll ∅ edits).Links tip) p p) :
    let s := Store.editAll ∅ edits
    (∃ q, r.StopsAt s.history tip q) ∧
    (∃ b, r.reliefBits s.history tip candidate = .ok b) ∧
    (r.loggedRelief s.history tip candidate).1 = r.reliefBits s.history tip candidate ∧
    (r.loggedRelief s.history tip candidate).2.length ≤ s.size + 1 := by
  intro s
  have hs : s.Sound := Store.Sound.empty.editAll edits
  obtain ⟨n, q, hn, hpath, hstop⟩ := stop_of_bound fun k q (hpath : r.Passes s.history k tip q) =>
    hs.path_le_size hacyclic hpath
  have hsize := hs.path_le_size hacyclic hpath
  obtain ⟨b, asked, hlog, hlen⟩ := loggedRelief_of_stop hn hpath hstop candidate
  refine ⟨⟨q, n, hpath, hstop⟩, ⟨b, ?_⟩, loggedRelief_fst, ?_⟩
  · rw [← loggedRelief_fst, hlog]
  · have hone := Bool.toNat_le (r.isRelieved q)
    rw [hlog]
    show asked.length ≤ _
    omega

/-- Headers at heights that rise from the tip backwards: the links end at the zero hash. -/
theorem relief_ends_at_rising_heights :
    let r : RuleSet := ⟨⟨80, 8, (⟨0x1e0fffff⟩ : Compact).target, true⟩, by decide⟩
    let first := Header.lone 1000 ⟨0x1e0fffff⟩
    let second := first.onTop 1010 ⟨0x1e0fffff⟩
    let tip : Placed := ⟨second.onTop 1020 ⟨0x1e0fffff⟩, 1⟩
    let s := Store.editAll ∅ [.insert ⟨first, 5⟩, .insert ⟨second, 3⟩]
    let candidate := Header.lone 1030 ⟨0x1e0fffff⟩
    (∀ p, ¬Relation.TransGen (s.Links tip) p p) ∧
    (∃ b, r.reliefBits s.history tip candidate = .ok b) ∧
    (r.loggedRelief s.history tip candidate).2.length ≤ s.size + 1 := by
  intro r first second tip s candidate
  let names := [tip.hash, second.hash, first.hash, .zero]
  have hdis : names.Nodup := by decide +kernel
  have hnext : ∀ i (hi : i + 1 < names.length),
      names.idxOf names[i] < names.idxOf names[i + 1] := by
    intro i hi
    rw [hdis.idxOf_getElem, hdis.idxOf_getElem]
    exact Nat.lt_succ_self i
  have hstep : ∀ p q, s.Links tip p q →
      names.idxOf p.header.parent < names.idxOf q.header.parent := by
    rintro p q ⟨hname, htip | hq⟩
    · subst htip
      rw [hname]
      exact hnext 0 (by decide)
    · replace hq : (((∅ : Store).insert ⟨first, 5⟩).insert ⟨second, 3⟩).history q.hash = some q := hq
      rw [Store.history_insert, Store.history_insert, Store.history_empty] at hq
      rw [hname]
      split at hq
      · obtain rfl := Option.some.inj hq
        exact hnext 1 (by decide)
      · split at hq
        · obtain rfl := Option.some.inj hq
          exact hnext 2 (by decide)
        · cases hq
  have hacyclic : ∀ p, ¬Relation.TransGen (s.Links tip) p p := by
    intro p hp
    have hlt := hp.lift (p := (· < ·)) (fun x => names.idxOf x.header.parent) hstep
    rw [Relation.transGen_eq_self] at hlt
    exact Nat.lt_irrefl _ hlt
  obtain ⟨_, hanswer, _, hlen⟩ := relief_ends_within_size (r := r) candidate hacyclic
  exact ⟨hacyclic, hanswer, hlen⟩

end RuleSet

end Retargeting
