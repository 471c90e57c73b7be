import Mathlib.Data.List.Induction
import Mathlib.Data.List.Infix
import Retargeting.Proofs.Runs

/- The two indexes of a store. Headers are looked up by hash and by height, and one of them
   is the tip. An insert writes all three and does not look at what it replaces. So a header
   that is recorded again at another height leaves its hash behind at the old one, and a tip
   that is recorded again further down stays the tip. These are the only ways out of order:
   from the empty store, the tip is the highest header and every header that is found by
   height stands at that height, in every state, exactly if no such record is made. -/
namespace Retargeting.Store

/-- What is done to a store: a header is taken as it is, pushed, or pruned away. -/
inductive Edit where
  | insert (p : Placed)
  | op (op : Op)

/-- The store after an edit. -/
def edit (s : Store) : Edit → Store
  | .insert p => s.insert p
  | .op op => s.after op

def editAll (s : Store) (edits : List Edit) : Store := edits.foldl edit s

/-- The header that an edit records in a store, at the height that it records it. -/
def Edit.recorded? (s : Store) : Edit → Option Placed
  | .insert p => some p
  | .op (.push h) => (s.placeNext h).toOption
  | .op (.prune _) => none

theorem editAll_concat (s : Store) (edits : List Edit) (e : Edit) :
    s.editAll (edits ++ [e]) = (s.editAll edits).edit e := by
  simp [editAll]

/-- An edit inserts what it records; one that records nothing prunes, or is a refused push. -/
theorem edit_cases (s : Store) (e : Edit) :
    (∃ p, e.recorded? s = some p ∧ s.edit e = s.insert p) ∨
    (e.recorded? s = none ∧ (s.edit e = s ∨ ∃ height, s.edit e = s.prune height)) := by
  cases e with
  | insert p => exact Or.inl ⟨p, rfl, rfl⟩
  | op op =>
    cases op with
    | push h =>
      rcases s.push_cases h with ⟨fault, hplace, _, hafter⟩ | ⟨p, hplace, _, hafter⟩
      · refine Or.inr ⟨?_, Or.inl hafter⟩
        rw [Edit.recorded?, hplace]
        rfl
      · refine Or.inl ⟨p, ?_, hafter⟩
        rw [Edit.recorded?, hplace]
        rfl
    | prune height => exact Or.inr ⟨rfl, Or.inr ⟨height, rfl⟩⟩

/-! What holds in any order of edits. -/

/-- Headers are kept under their own hashes, the index has an entry at the height of each,
    and a store that keeps a header has a tip. -/
structure Sound (s : Store) : Prop where
  hash_eq : ∀ {d p}, s.history d = some p → p.hash = d
  entry : ∀ {d p}, s.history d = some p → ∃ e, s.byHeight[p.height]? = some e
  tip : ∀ {d p}, s.history d = some p → ∃ tip, s.tip? = some tip

namespace Sound
variable {s : Store} {p tip : Placed}

theorem empty : Sound ∅ := by
  have hnone : ∀ {d p}, (∅ : Store).history d ≠ some p := by
    intro d p hp
    rw [history_empty] at hp
    cases hp
  exact ⟨fun hp => absurd hp hnone, fun hp => absurd hp hnone, fun hp => absurd hp hnone⟩

theorem tipHash_eq (hs : s.Sound) (htip : s.tip? = some tip) : s.tipHash = some tip.hash := by
  obtain ⟨d, hd, hk⟩ := tip?_eq_some_iff.mp htip
  rw [hd, hs.hash_eq hk]

/-- A record that is not above the tip leaves the tip, unless it is a record of the tip. -/
theorem tip?_insert (hs : s.Sound) (hlow : s.isAboveTip p.height = false) :
    ∃ tip, s.tip? = some tip ∧ p.height ≤ tip.height ∧
      (s.insert p).tip? = if p.hash = tip.hash then some p else some tip := by
  cases htip : s.tip? with
  | none => simp [isAboveTip, htip] at hlow
  | some tip =>
    refine ⟨tip, rfl, ?_, ?_⟩
    · simpa [isAboveTip, htip] using hlow
    · rw [tip?_insert_of_not_above hlow, hs.tipHash_eq htip, htip, Option.bind_some]

theorem insert (hs : s.Sound) (p : Placed) : (s.insert p).Sound := by
  refine ⟨?_, ?_, ?_⟩
  · intro d q hq
    rw [history_insert] at hq
    split at hq
    · next hd =>
      cases hq
      exact hd
    · exact hs.hash_eq hq
  · intro d q hq
    rw [history_insert] at hq
    rw [byHeight_insert]
    split at hq
    · cases hq
      exact ⟨p.hash, if_pos rfl⟩
    · obtain ⟨e, he⟩ := hs.entry hq
      split
      · exact ⟨p.hash, rfl⟩
      · exact ⟨e, he⟩
  · intro _ _ _
    cases hab : s.isAboveTip p.height with
    | true => exact ⟨p, tip?_insert_of_above hab⟩
    | false =>
      obtain ⟨tip, _, _, htip⟩ := hs.tip?_insert hab
      rw [htip]
      split
      · exact ⟨p, rfl⟩
      · exact ⟨tip, rfl⟩

theorem prune (hs : s.Sound) (height : UInt32) : (s.prune height).Sound := by
  refine ⟨?_, ?_, ?_⟩
  · intro d q hq
    rw [history_prune, Option.filter_eq_some_iff] at hq
    exact hs.hash_eq hq.1
  · intro d q hq
    rw [history_prune, Option.filter_eq_some_iff] at hq
    obtain ⟨e, he⟩ := hs.entry hq.1
    refine ⟨e, ?_⟩
    rw [byHeight_prune, he, Option.filter_some, if_pos hq.2]
  · intro d q hq
    rw [history_prune, Option.filter_eq_some_iff] at hq
    rw [tip?_prune]
    exact hs.tip hq.1

theorem edit (hs : s.Sound) (e : Edit) : (s.edit e).Sound := by
  rcases s.edit_cases e with ⟨p, _, hedit⟩ | ⟨_, hedit | ⟨height, hedit⟩⟩
  · rw [hedit]
    exact hs.insert p
  · rw [hedit]
    exact hs
  · rw [hedit]
    exact hs.prune height

theorem editAll (hs : s.Sound) (edits : List Edit) : (s.editAll edits).Sound := by
  induction edits generalizing s with
  | nil => exact hs
  | cons e edits ih => exact ih (hs.edit e)

/-- What is found by height is found by its hash too. -/
theorem history_atHeight? (hs : s.Sound) {h : UInt32} (hp : s.atHeight? h = some p) :
    s.history p.hash = some p := by
  obtain ⟨d, _, hk⟩ := atHeight?_eq_some_iff.mp hp
  rw [hs.hash_eq hk]
  exact hk

end Sound

/-! Stores in order. -/

/-- The tip is the highest header, and what is found by height stands at that height. -/
structure InOrder (s : Store) : Prop where
  le_tip : ∀ {tip d p}, s.tip? = some tip → s.history d = some p → p.height ≤ tip.height
  height_eq : ∀ {h p}, s.atHeight? h = some p → p.height = h

/-- Recording `p` moves a header: away from a height where the index has it, or down from
    the tip. -/
def Displaces (s : Store) (p : Placed) : Prop :=
  ∃ q, s.history p.hash = some q ∧ q.height ≠ p.height ∧
    (s.atHeight? q.height = some q ∨ s.tip? = some q ∧ p.height < q.height)

/-- A store in order whose height index names kept headers only. -/
structure Tidy (s : Store) : Prop where
  sound : s.Sound
  inOrder : s.InOrder
  kept : ∀ {h : UInt32} {d : Digest}, s.byHeight[h]? = some d → ∃ p, s.history d = some p

namespace Tidy
variable {s : Store} {p : Placed}

theorem empty : Tidy ∅ := by
  refine ⟨Sound.empty, ⟨?_, ?_⟩, ?_⟩
  · intro tip d p _ hp
    rw [history_empty] at hp
    cases hp
  · intro h p hp
    obtain ⟨d, _, hk⟩ := atHeight?_eq_some_iff.mp hp
    rw [history_empty] at hk
    cases hk
  · intro h d hd
    replace hd : (∅ : Std.ExtTreeMap UInt32 Digest)[h]? = some d := hd
    simp at hd

theorem prune (ht : s.Tidy) (height : UInt32) : (s.prune height).Tidy := by
  refine ⟨ht.sound.prune height, ⟨?_, ?_⟩, ?_⟩
  · intro tip d p htip hp
    rw [tip?_prune] at htip
    rw [history_prune, Option.filter_eq_some_iff] at hp
    exact ht.inOrder.le_tip htip hp.1
  · intro h p hp
    obtain ⟨d, hd, hk⟩ := atHeight?_eq_some_iff.mp hp
    rw [byHeight_prune, Option.filter_eq_some_iff] at hd
    rw [history_prune, Option.filter_eq_some_iff] at hk
    exact ht.inOrder.height_eq (atHeight?_eq_some_iff.mpr ⟨d, hd.1, hk.1⟩)
  · intro h d hd
    rw [byHeight_prune, Option.filter_eq_some_iff] at hd
    obtain ⟨p, hp⟩ := ht.kept hd.1
    -- the header stands where the index has it, so the cut leaves both or neither
    have hheight := ht.inOrder.height_eq (atHeight?_eq_some_iff.mpr ⟨d, hd.1, hp⟩)
    refine ⟨p, ?_⟩
    rw [history_prune, Option.filter_eq_some_iff, hheight]
    exact ⟨hp, hd.2⟩

theorem le_tip_insert (ht : s.Tidy) (hp : ¬s.Displaces p) {tip q : Placed} {d : Digest}
    (htip : (s.insert p).tip? = some tip) (hq : (s.insert p).history d = some q) :
    q.height ≤ tip.height := by
  have hold : q = p ∨ s.history d = some q := by
    rw [history_insert] at hq
    split at hq
    · exact Or.inl (Option.some.inj hq).symm
    · exact Or.inr hq
  cases hab : s.isAboveTip p.height with
  | true =>
    rw [tip?_insert_of_above hab, Option.some.injEq] at htip
    subst htip
    rcases hold with rfl | hq
    · exact UInt32.le_refl _
    · obtain ⟨old, hold⟩ := ht.sound.tip hq
      have hlt : old.height < p.height := by simpa [isAboveTip, hold] using hab
      exact UInt32.le_trans (ht.inOrder.le_tip hold hq) (UInt32.le_of_lt hlt)
  | false =>
    obtain ⟨old, hkept, hle, hnew⟩ := ht.sound.tip?_insert hab
    have hheight : tip.height = old.height := by
      rw [hnew] at htip
      split at htip
      · next hsame =>
        -- a record of the tip is at the tip's height, or the tip would come down
        cases htip
        by_contra hne
        obtain ⟨e, he, hk⟩ := tip?_eq_some_iff.mp hkept
        rw [← ht.sound.hash_eq hk, ← hsame] at hk
        have hlt : p.height < old.height := UInt32.lt_of_le_of_ne hle hne
        exact hp ⟨old, hk, Ne.symm hne, Or.inr ⟨hkept, hlt⟩⟩
      · cases htip
        rfl
    rw [hheight]
    rcases hold with rfl | hq
    · exact hle
    · exact ht.inOrder.le_tip hkept hq

theorem height_eq_insert (ht : s.Tidy) (hp : ¬s.Displaces p) {h : UInt32} {q : Placed}
    (hq : (s.insert p).atHeight? h = some q) : q.height = h := by
  obtain ⟨d, hd, hk⟩ := atHeight?_eq_some_iff.mp hq
  rw [byHeight_insert] at hd
  rw [history_insert] at hk
  split at hd
  · next hheight =>
    rw [if_pos (Option.some.inj hd)] at hk
    cases hk
    exact hheight
  · next hheight =>
    split at hk
    · next hsame =>
      -- the index had the header that is recorded, at a height that it leaves
      obtain ⟨x, hx⟩ := ht.kept hd
      have hat : s.atHeight? h = some x := atHeight?_eq_some_iff.mpr ⟨d, hd, hx⟩
      have hxh := ht.inOrder.height_eq hat
      rw [← hsame] at hx
      exact absurd ⟨x, hx, by rw [hxh]; exact Ne.symm hheight, Or.inl (by rw [hxh]; exact hat)⟩ hp
    · exact ht.inOrder.height_eq (atHeight?_eq_some_iff.mpr ⟨d, hd, hk⟩)

theorem insert (ht : s.Tidy) (hp : ¬s.Displaces p) : (s.insert p).Tidy := by
  refine ⟨ht.sound.insert p, ⟨?_, ?_⟩, ?_⟩
  · exact ht.le_tip_insert hp
  · exact ht.height_eq_insert hp
  · intro h d hd
    rw [history_insert]
    split
    · exact ⟨p, rfl⟩
    · next hne =>
      rw [byHeight_insert] at hd
      split at hd
      · exact absurd (Option.some.inj hd) hne
      · exact ht.kept hd

/-- A record that moves a header leaves the store out of order. -/
theorem not_inOrder_insert (ht : s.Tidy) (hp : s.Displaces p) : ¬(s.insert p).InOrder := by
  intro horder
  obtain ⟨q, hq, hne, hmoved⟩ := hp
  have hindexed : s.atHeight? q.height ≠ some q := by
    intro hat
    obtain ⟨d, hd, hk⟩ := atHeight?_eq_some_iff.mp hat
    have hstale : (s.insert p).atHeight? q.height = some p := by
      refine atHeight?_eq_some_iff.mpr ⟨p.hash, ?_, ?_⟩
      · rw [byHeight_insert, if_neg (Ne.symm hne), hd, ← ht.sound.hash_eq hk, ht.sound.hash_eq hq]
      · rw [history_insert, if_pos rfl]
    exact hne (horder.height_eq hstale).symm
  rcases hmoved with hat | ⟨htip, hlt⟩
  · exact hindexed hat
  · -- another header has the tip's place in the index, and is higher than the tip from now on
    obtain ⟨d, hd⟩ := ht.sound.entry hq
    obtain ⟨x, hx⟩ := ht.kept hd
    have hat : s.atHeight? q.height = some x := atHeight?_eq_some_iff.mpr ⟨d, hd, hx⟩
    have hxh := ht.inOrder.height_eq hat
    have hother : p.hash ≠ d := by
      rintro rfl
      rw [hq] at hx
      exact hindexed (hat.trans hx.symm)
    have hlow : s.isAboveTip p.height = false := by
      simpa [isAboveTip, htip] using UInt32.le_of_lt hlt
    have hdown : (s.insert p).tip? = some p := by
      rw [tip?_insert_of_not_above hlow, ht.sound.tipHash_eq htip, ht.sound.hash_eq hq,
        Option.bind_some, if_pos rfl]
    have hkept : (s.insert p).history d = some x := by
      rw [history_insert, if_neg hother]
      exact hx
    have hle := horder.le_tip hdown hkept
    rw [hxh] at hle
    exact absurd hlt (UInt32.not_lt.mpr hle)

/-- One edit: a store in order stays so if the edit moves no header. -/
theorem edit_iff (ht : s.Tidy) (e : Edit) :
    ((s.edit e).InOrder ↔ ∀ p, e.recorded? s = some p → ¬s.Displaces p) ∧
    ((s.edit e).InOrder → (s.edit e).Tidy) := by
  rcases s.edit_cases e with ⟨p, hrec, hedit⟩ | ⟨hrec, hedit⟩
  · rw [hrec, hedit]
    have hiff : (s.insert p).InOrder ↔ ¬s.Displaces p :=
      ⟨fun h hp => ht.not_inOrder_insert hp h, fun hp => (ht.insert hp).inOrder⟩
    refine ⟨?_, fun h => ht.insert (hiff.mp h)⟩
    rw [hiff]
    simp
  · have htidy : (s.edit e).Tidy := by
      rcases hedit with hedit | ⟨height, hedit⟩
      · rw [hedit]
        exact ht
      · rw [hedit]
        exact ht.prune height
    rw [hrec]
    exact ⟨iff_of_true htidy.inOrder nofun, fun _ => htidy⟩

end Tidy

/-! Runs of edits. -/

/-- Order in every state of a run, from the empty store on, leaves the last one tidy. -/
theorem tidy_editAll {edits : List Edit}
    (horder : ∀ before, before <+: edits → (editAll ∅ before).InOrder) :
    (editAll ∅ edits).Tidy := by
  induction edits using List.reverseRecOn with
  | nil => exact Tidy.empty
  | append_singleton edits e ih =>
    have htidy := ih fun before hb => horder before (hb.trans (List.prefix_append edits [e]))
    have hlast := horder (edits ++ [e]) List.prefix_rfl
    rw [editAll_concat] at hlast ⊢
    exact (htidy.edit_iff e).2 hlast

/-- From the empty store, whatever is inserted, pushed and pruned: a store that keeps a header
    has a tip, and what is found by height is found by its hash as the same header. In every
    state the tip is the highest header and every header that is found by height stands at
    that height, exactly if no edit moves a header away from a height where the index has it,
    or down from the tip. -/
theorem indexes_in_order_iff (edits : List Edit) :
    (∀ d p, (editAll ∅ edits).history d = some p → ∃ tip, (editAll ∅ edits).tip? = some tip) ∧
    (∀ h p, (editAll ∅ edits).atHeight? h = some p →
      (editAll ∅ edits).history p.hash = some p) ∧
    ((∀ before, before <+: edits → (editAll ∅ before).InOrder) ↔
      ∀ before e p, before ++ [e] <+: edits → e.recorded? (editAll ∅ before) = some p →
        ¬(editAll ∅ before).Displaces p) := by
  have hsound : (editAll ∅ edits).Sound := Sound.empty.editAll edits
  refine ⟨fun _ _ hp => hsound.tip hp, fun _ _ hp => hsound.history_atHeight? hp, ?_⟩
  constructor
  · intro horder before e p hprefix
    have hbefore : before <+: edits := (List.prefix_append before [e]).trans hprefix
    have htidy := tidy_editAll fun b hb => horder b (hb.trans hbefore)
    have hlast := horder (before ++ [e]) hprefix
    rw [editAll_concat] at hlast
    exact (htidy.edit_iff e).1.mp hlast p
  · intro hgentle before hbefore
    suffices htidy : (editAll ∅ before).Tidy from htidy.inOrder
    induction before using List.reverseRecOn with
    | nil => exact Tidy.empty
    | append_singleton before e ih =>
      have htidy := ih ((List.prefix_append before [e]).trans hbefore)
      have horder := (htidy.edit_iff e).1.mpr fun p hp => hgentle before e p hbefore hp
      rw [editAll_concat]
      exact (htidy.edit_iff e).2 horder

/-- A header that is inserted at height five and then at height three is found at height
    five still. -/
theorem moved_header_found_at_old_height : ¬ ∀ edits : List Edit, (editAll ∅ edits).InOrder := by
  intro horder
  let header := Header.lone 1000 ⟨0x1e0ffff0⟩
  let edits : List Edit := [.insert ⟨header, 5⟩, .insert ⟨header, 3⟩]
  have hfound : (editAll ∅ edits).atHeight? 5 = some ⟨header, 3⟩ := by
    refine atHeight?_eq_some_iff.mpr ⟨header.hash, ?_, ?_⟩
    · show (((∅ : Store).insert ⟨header, 5⟩).insert ⟨header, 3⟩).byHeight[(5 : UInt32)]? = _
      rw [byHeight_insert, if_neg (by decide), byHeight_insert, if_pos rfl]
      rfl
    · show (((∅ : Store).insert ⟨header, 5⟩).insert ⟨header, 3⟩).history header.hash = _
      rw [history_insert]
      exact if_pos rfl
  exact absurd ((horder edits).height_eq hfound) (by decide)

end Retargeting.Store
