import Mathlib.Data.Finset.Card
import Retargeting.Proofs.Indexes

/- What pruning takes away. Both indexes are cut at one height: the one that is asked for, or
   that of the tip where the tip is lower. So the tip stays, the next cut is reckoned from the
   same tip, and of two cuts the higher one decides, in whatever order they come. This holds
   of any store, with siblings, gaps and stale index entries. The headers that go are counted
   by their hashes, under each of which the store keeps one; hence the numbers that two prunes
   report add up to that of the one. In the states that are reached from the empty store there
   is a tip as soon as there is a header, so no header is cut without one. -/
namespace Retargeting.Store

/-! Cuts. -/

/-- What two cuts both keep is what the higher one keeps. -/
theorem cut_max_le_iff (s : Store) (a b h : UInt32) :
    s.cut (max a b) ≤ h ↔ s.cut a ≤ h ∧ s.cut b ≤ h := by
  have hmax : max a b = if a ≤ b then b else a := rfl
  unfold cut
  split
  all_goals
    simp only [hmax, Std.min_eq_if, UInt32.le_iff_toNat_le]
    split_ifs <;> omega

/-- The tip stays, and the next cut is reckoned from it. -/
theorem cut_prune (s : Store) (a b : UInt32) : (s.prune a).cut b = s.cut b := by
  unfold cut
  rw [tip?_prune]

/-- Both indexes are cut alike, so of two cuts the higher one decides. -/
theorem prune_prune (s : Store) (a b : UInt32) : (s.prune a).prune b = s.prune (max a b) := by
  have hcut : ∀ h, decide (s.cut (max a b) ≤ h) =
      (decide (s.cut a ≤ h) && decide (s.cut b ≤ h)) := by
    intro h
    rw [← Bool.decide_and, decide_eq_decide]
    exact s.cut_max_le_iff a b h
  have hhash : ((s.prune a).prune b).byHash = (s.prune (max a b)).byHash := by
    apply Std.ExtTreeMap.ext_getElem?
    intro d
    show ((s.prune a).prune b).history d = (s.prune (max a b)).history d
    simp only [history_prune, cut_prune, Option.filter_filter, hcut]
  have hheight : ((s.prune a).prune b).byHeight = (s.prune (max a b)).byHeight := by
    apply Std.ExtTreeMap.ext_getElem?
    intro h
    simp only [byHeight_prune, cut_prune, Option.filter_filter, hcut]
  calc (s.prune a).prune b
      = ⟨((s.prune a).prune b).byHash, ((s.prune a).prune b).byHeight, s.tipHash⟩ := rfl
    _ = s.prune (max a b) := by rw [hhash, hheight]; rfl

theorem prune_prune_swap (s : Store) (a b : UInt32) : (s.prune b).prune a = s.prune (max a b) := by
  have hmax : max b a = max a b := by
    apply UInt32.toNat_inj.mp
    show (if b ≤ a then a else b).toNat = (if a ≤ b then b else a).toNat
    simp only [UInt32.le_iff_toNat_le]
    split_ifs <;> omega
  rw [prune_prune, hmax]

/-! What goes. -/

/-- The hashes under which the store keeps a header. -/
def kept (s : Store) : Finset Digest := s.byHash.keys.toFinset

theorem mem_kept {s : Store} {d : Digest} : d ∈ s.kept ↔ ∃ p, s.history d = some p := by
  rw [kept, List.mem_toFinset, mem_keys_iff]

theorem card_kept (s : Store) : s.kept.card = s.size := by
  rw [kept, List.toFinset_card_of_nodup Std.ExtTreeMap.nodup_keys, length_keys]

theorem kept_prune_subset (s : Store) (height : UInt32) : (s.prune height).kept ⊆ s.kept := by
  intro d hd
  obtain ⟨p, hp⟩ := mem_kept.mp hd
  rw [history_prune, Option.filter_eq_some_iff] at hp
  exact mem_kept.mpr ⟨p, hp.1⟩

/-- The number that a prune reports is that of the headers that go. -/
theorem prunedCount_eq (s : Store) (height : UInt32) :
    s.prunedCount height = (s.kept \ (s.prune height).kept).card := by
  rw [Finset.card_sdiff_of_subset (s.kept_prune_subset height), card_kept, card_kept]
  rfl

/-- What the first of two prunes leaves to the second makes up the number for both. -/
theorem prunedCount_add (s : Store) (a b : UInt32) :
    s.prunedCount a + (s.prune a).prunedCount b = s.size - ((s.prune a).prune b).size := by
  have hfirst := Finset.card_le_card (s.kept_prune_subset a)
  have hsecond := Finset.card_le_card ((s.prune a).kept_prune_subset b)
  simp only [card_kept] at hfirst hsecond
  unfold prunedCount
  omega

/-- The header that the store keeps under a hash stands below a height, and below the tip. -/
def BelowCut (s : Store) (height : UInt32) (d : Digest) : Prop :=
  ∃ p tip, s.history d = some p ∧ s.tip? = some tip ∧ p.height < min height tip.height

section Sound
variable {s : Store} {d : Digest} {height : UInt32}

theorem Sound.belowCut_iff (hs : s.Sound) :
    s.BelowCut height d ↔ ∃ p, s.history d = some p ∧ p.height < s.cut height := by
  constructor
  · rintro ⟨p, tip, hp, htip, hlow⟩
    refine ⟨p, hp, ?_⟩
    rw [cut, htip]
    exact hlow
  · rintro ⟨p, hp, hlow⟩
    obtain ⟨tip, htip⟩ := hs.tip hp
    rw [cut, htip] at hlow
    exact ⟨p, tip, hp, htip, hlow⟩

/-- A header below the cut goes, and every other look-up answers as before. -/
theorem Sound.history_prune_cases (hs : s.Sound) (height : UInt32) (d : Digest) :
    s.BelowCut height d ∧ (s.prune height).history d = none ∨
    ¬s.BelowCut height d ∧ (s.prune height).history d = s.history d := by
  rw [hs.belowCut_iff, history_prune]
  cases hp : s.history d with
  | none => exact Or.inr ⟨by simp, rfl⟩
  | some p =>
    rcases UInt32.lt_or_le p.height (s.cut height) with hlow | hhigh
    · exact Or.inl ⟨⟨p, rfl, hlow⟩, by simp [hlow]⟩
    · refine Or.inr ⟨?_, by simp [hhigh]⟩
      rintro ⟨q, hq, hlow⟩
      cases hq
      exact absurd hlow (UInt32.not_lt.mpr hhigh)

theorem Sound.mem_gone_iff (hs : s.Sound) :
    d ∈ s.kept \ (s.prune height).kept ↔ s.BelowCut height d := by
  rw [Finset.mem_sdiff, mem_kept, mem_kept]
  rcases hs.history_prune_cases height d with ⟨hlow, hgone⟩ | ⟨hhigh, hstays⟩
  · have ⟨p, _, hp, _⟩ := hlow
    simp [hgone, hlow, hp]
  · simp [hstays, hhigh]

theorem Sound.isEmpty_iff (hs : s.Sound) : s.isEmpty = true ↔ s.tip? = none := by
  constructor
  · intro hempty
    cases htip : s.tip? with
    | none => rfl
    | some tip =>
      rw [isEmpty_of_tip htip] at hempty
      cases hempty
  · intro htip
    rw [isEmpty, Std.ExtTreeMap.isEmpty_iff]
    apply Std.ExtTreeMap.ext_getElem?
    intro d
    show s.history d = _
    cases hp : s.history d with
    | none => simp
    | some p =>
      obtain ⟨tip, hsome⟩ := hs.tip hp
      rw [htip] at hsome
      cases hsome

end Sound

/-- In any state of a store, whatever was inserted, pushed and pruned: two prunes, in either
    order, leave the store that one prune below the greater of the two heights leaves, and
    their numbers add up to its number. A prune takes from the look-up by hash just the headers
    below its height and below the tip, of which it reports the number; it changes no other
    look-up and not the tip. And the store is empty exactly if it has no tip. -/
theorem prunes_compose (edits : List Edit) (a b : UInt32) :
    let s := editAll ∅ edits
    (s.prune a).prune b = s.prune (max a b) ∧ (s.prune b).prune a = s.prune (max a b) ∧
    s.prunedCount a + (s.prune a).prunedCount b = s.prunedCount (max a b) ∧
    s.prunedCount b + (s.prune b).prunedCount a = s.prunedCount (max a b) ∧
    (∀ height,
      (∀ d, s.BelowCut height d ∧ (s.prune height).history d = none ∨
        ¬s.BelowCut height d ∧ (s.prune height).history d = s.history d) ∧
      (∃ gone : Finset Digest, (∀ d, d ∈ gone ↔ s.BelowCut height d) ∧
        s.prunedCount height = gone.card) ∧
      (s.prune height).tip? = s.tip?) ∧
    (s.isEmpty = true ↔ s.tip? = none) := by
  intro s
  have hs : s.Sound := Sound.empty.editAll edits
  refine ⟨s.prune_prune a b, s.prune_prune_swap a b, ?_, ?_, fun height => ⟨?_, ?_, ?_⟩,
    hs.isEmpty_iff⟩
  · rw [prunedCount_add, prune_prune, prunedCount]
  · rw [prunedCount_add, prune_prune_swap, prunedCount]
  · exact hs.history_prune_cases height
  · exact ⟨_, fun _ => hs.mem_gone_iff, s.prunedCount_eq height⟩
  · exact s.tip?_prune height

end Retargeting.Store
