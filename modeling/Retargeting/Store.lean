import Std.Data.ExtTreeMap
import Retargeting.Fault
import Retargeting.History

/- Headers in memory, indexed by hash and by height, with the hash of the tip.
   A header that is offered must name the tip as its parent and comes one above
   it, if there is a height above it; otherwise the store stays as it is. A
   header that is inserted is taken as it is, and is the new tip if it is higher
   than the old one. Pruning drops what is recorded below a height but never the
   tip, so what is left is a history that ends at a checkpoint. -/
namespace Retargeting

structure Store where
  byHash : Std.ExtTreeMap Digest Placed
  byHeight : Std.ExtTreeMap UInt32 Digest
  tipHash : Option Digest

namespace Store

def empty : Store := ⟨∅, ∅, none⟩

instance : EmptyCollection Store := ⟨empty⟩

instance : Inhabited Store := ⟨empty⟩

def history (s : Store) : History := fun d => s.byHash[d]?

/-- The highest header. -/
def tip? (s : Store) : Option Placed := s.tipHash.bind s.history

/-- The header last inserted at a height, if it is kept. -/
def atHeight? (s : Store) (height : UInt32) : Option Placed :=
  s.byHeight[height]?.bind s.history

def size (s : Store) : Nat := s.byHash.size

def isEmpty (s : Store) : Bool := s.byHash.isEmpty

/-- Whether a header at this height would be above the tip. -/
def isAboveTip (s : Store) (height : UInt32) : Bool :=
  match s.tip? with
  | some tip => tip.height < height
  | none => true

/-- Takes a header as it is. -/
def insert (s : Store) (p : Placed) : Store :=
  let d := p.hash
  { byHash := s.byHash.insert d p
    byHeight := s.byHeight.insert p.height d
    tipHash := if s.isAboveTip p.height then some d else s.tipHash }

/-- The place of a header that is to come next: one above the tip that it names
    as its parent, or at the bottom of an empty store. -/
def placeNext (s : Store) (h : Header) : Except Fault Placed :=
  match s.tip? with
  | some tip =>
    if h.parent = tip.hash then
      match tip.heightAbove? with
      | some height => .ok ⟨h, height⟩
      | none => .error (.history (.noHeightAbove tip.height))
    else .error (.history (.notOnTip tip.height))
  | none => .ok ⟨h, 0⟩

/-- Offers a header to the tip: the hash under which it is connected, or why it is not,
    and the store that the offer leaves. -/
def offer (s : Store) (h : Header) : Except Fault Digest × Store :=
  match s.placeNext h with
  | .ok p => (.ok p.hash, s.insert p)
  | .error fault => (.error fault, s)

/-- Connects a header to the tip; the store is given up for a header that is refused. -/
def push (s : Store) (h : Header) : Except Fault Store :=
  match s.offer h with
  | (.ok _, t) => .ok t
  | (.error fault, _) => .error fault

/-- The store of headers that are connected one after the other. -/
def ofHeaders (hs : List Header) : Except Fault Store := hs.foldlM push ∅

/-- The lowest height that pruning below `height` keeps: the tip is never dropped. -/
def cut (s : Store) (height : UInt32) : UInt32 :=
  match s.tip? with
  | some tip => min height tip.height
  | none => height

/-- Drops the headers below a height, save the tip. -/
def prune (s : Store) (height : UInt32) : Store :=
  let low := s.cut height
  { s with
    byHash := s.byHash.filter fun _ p => low ≤ p.height
    byHeight := s.byHeight.filter fun h _ => low ≤ h }

def prunedCount (s : Store) (height : UInt32) : Nat := s.size - (s.prune height).size

/-! What the look-ups go through. -/

theorem tip?_eq_some_iff {s : Store} {p : Placed} :
    s.tip? = some p ↔ ∃ d, s.tipHash = some d ∧ s.history d = some p := Option.bind_eq_some_iff

theorem atHeight?_eq_some_iff {s : Store} {height : UInt32} {p : Placed} :
    s.atHeight? height = some p ↔ ∃ d, s.byHeight[height]? = some d ∧ s.history d = some p :=
  Option.bind_eq_some_iff

theorem mem_keys_iff {s : Store} {d : Digest} :
    d ∈ s.byHash.keys ↔ ∃ p, s.history d = some p := by
  rw [Std.ExtTreeMap.mem_keys, Std.ExtTreeMap.mem_iff_isSome_getElem?]
  exact Option.isSome_iff_exists

theorem isEmpty_of_tip {s : Store} {tip : Placed} (htip : s.tip? = some tip) :
    s.isEmpty = false := by
  obtain ⟨d, _, hd⟩ := tip?_eq_some_iff.mp htip
  have hmem := mem_keys_iff.mpr ⟨tip, hd⟩
  rw [Std.ExtTreeMap.mem_keys] at hmem
  exact Std.ExtTreeMap.isEmpty_eq_false_iff.mpr (Std.ExtTreeMap.ne_empty_of_mem hmem)

theorem length_keys (s : Store) : s.byHash.keys.length = s.size := Std.ExtTreeMap.length_keys

/-! What comes of an offer. -/

section
variable {s t : Store} {h : Header} {p tip : Placed} {fault : Fault}

theorem placeNext_of_no_tip (htip : s.tip? = none) : s.placeNext h = .ok ⟨h, 0⟩ := by
  rw [placeNext, htip]

/-- On a tip, a header has a place if it names the tip, one height up. -/
theorem placeNext_eq_ok_iff (htip : s.tip? = some tip) :
    s.placeNext h = .ok p ↔
      p.header = h ∧ h.parent = tip.hash ∧ tip.height.toNat + 1 = p.height.toNat := by
  obtain ⟨header, height⟩ := p
  simp only [placeNext, htip, ← Placed.heightAbove?_eq_some_iff]
  by_cases hparent : h.parent = tip.hash
  · cases tip.heightAbove? <;> simp [hparent, @eq_comm _ h header]
  · simp [hparent]

theorem header_of_placeNext (hplace : s.placeNext h = .ok p) : p.header = h := by
  cases htip : s.tip? with
  | none =>
    rw [placeNext_of_no_tip htip] at hplace
    cases hplace
    rfl
  | some tip => exact ((placeNext_eq_ok_iff htip).mp hplace).1

theorem offer_of_place (hplace : s.placeNext h = .ok p) : s.offer h = (.ok p.hash, s.insert p) := by
  rw [offer, hplace]

/-- A header that is refused leaves the store as it was. -/
theorem offer_of_fault (hplace : s.placeNext h = .error fault) :
    s.offer h = (.error fault, s) := by
  rw [offer, hplace]

theorem push_of_place (hplace : s.placeNext h = .ok p) : s.push h = .ok (s.insert p) := by
  rw [push, offer_of_place hplace]

theorem push_eq_ok_iff : s.push h = .ok t ↔ ∃ d, s.offer h = (.ok d, t) := by
  unfold push
  obtain ⟨answer, left⟩ := s.offer h
  cases answer <;> simp

end

/-! What the operations do to the history and to the height index. -/

theorem history_empty (d : Digest) : (∅ : Store).history d = none := by
  show (∅ : Std.ExtTreeMap Digest Placed)[d]? = none
  simp

theorem history_insert (s : Store) (p : Placed) (d : Digest) :
    (s.insert p).history d = if p.hash = d then some p else s.history d := by
  simp [history, insert, Std.ExtTreeMap.getElem?_insert]

theorem history_prune (s : Store) (height : UInt32) (d : Digest) :
    (s.prune height).history d = (s.history d).filter fun p => s.cut height ≤ p.height := by
  simp [history, prune, Std.ExtTreeMap.getElem?_filter]

theorem byHeight_insert (s : Store) (p : Placed) (h : UInt32) :
    (s.insert p).byHeight[h]? = if p.height = h then some p.hash else s.byHeight[h]? := by
  simp [insert, Std.ExtTreeMap.getElem?_insert]

theorem byHeight_prune (s : Store) (height h : UInt32) :
    (s.prune height).byHeight[h]? = s.byHeight[h]?.filter fun _ => s.cut height ≤ h := by
  simp [prune, Std.ExtTreeMap.getElem?_filter]

end Store

end Retargeting
