import Retargeting.Proofs.Replay

/- Runs of a store. A node pushes headers and prunes, in any order, and a push that is
   refused leaves the store as it was. What a push answers depends on the tip alone, and
   pruning never touches the tip, so a run answers the same with its prunes left out. From
   the empty store, every header that is connected takes the next height, so a run connects
   no more headers than there are heights. They are a chain: the store holds the blocks of
   this chain from some index up to the tip, and pruning raises that index. -/
namespace Retargeting.Store

/-- What a node does to its store. -/
inductive Op where
  | push (h : Header)
  | prune (height : UInt32)

def Op.isPush : Op → Bool
  | .push _ => true
  | .prune _ => false

/-- The store after an operation. -/
def after (s : Store) : Op → Store
  | .push h => (s.offer h).2
  | .prune height => s.prune height

def run (s : Store) (ops : List Op) : Store := ops.foldl after s

/-- The headers that the pushes of a run connect. -/
def connected (s : Store) : List Op → List Header
  | [] => []
  | .push h :: ops =>
    (if (s.offer h).1.isOk then [h] else []) ++ (s.after (.push h)).connected ops
  | .prune height :: ops => (s.after (.prune height)).connected ops

theorem run_cons (s : Store) (op : Op) (ops : List Op) :
    s.run (op :: ops) = (s.after op).run ops := rfl

theorem after_push_ok {s t : Store} {h : Header} (hpush : s.push h = .ok t) :
    s.after (.push h) = t := by
  obtain ⟨d, hoffer⟩ := push_eq_ok_iff.mp hpush
  rw [after, hoffer]

/-- An empty store takes any header. -/
theorem after_push_empty (h : Header) : after ∅ (.push h) = (∅ : Store).insert ⟨h, 0⟩ := rfl

theorem connected_push_ok {s t : Store} {h : Header} (hpush : s.push h = .ok t) (ops : List Op) :
    s.connected (.push h :: ops) = h :: t.connected ops := by
  rw [connected, after_push_ok hpush]
  obtain ⟨d, hoffer⟩ := push_eq_ok_iff.mp hpush
  rw [hoffer]
  rfl

theorem connected_push_fault {s : Store} {h : Header} {fault : Fault}
    (hoffer : s.offer h = (.error fault, s)) (ops : List Op) :
    s.connected (.push h :: ops) = s.connected ops := by
  rw [connected, after, hoffer]
  rfl

/-- A push is refused and changes nothing, or it inserts the header at the place it is given. -/
theorem push_cases (s : Store) (h : Header) :
    (∃ fault, s.placeNext h = .error fault ∧ s.offer h = (.error fault, s) ∧
      s.after (.push h) = s) ∨
    (∃ p, s.placeNext h = .ok p ∧ s.push h = .ok (s.insert p) ∧
      s.after (.push h) = s.insert p) := by
  cases hplace : s.placeNext h with
  | error fault =>
    have hoffer := offer_of_fault hplace
    exact Or.inl ⟨fault, rfl, hoffer, by rw [after, hoffer]⟩
  | ok p =>
    have hpush := push_of_place hplace
    exact Or.inr ⟨p, rfl, hpush, after_push_ok hpush⟩

/-! What a run connects and keeps. -/

theorem tip?_prune (s : Store) (height : UInt32) : (s.prune height).tip? = s.tip? := by
  show s.tipHash.bind (s.prune height).history = s.tipHash.bind s.history
  cases hd : s.tipHash with
  | none => rfl
  | some d =>
    simp only [Option.bind_some, history_prune]
    cases hp : s.history d with
    | none => rfl
    | some tip =>
      have htip : s.tip? = some tip := by simp [tip?, hd, hp]
      -- the cut is never above the tip
      have hcut : s.cut height ≤ tip.height := by
        unfold cut
        rw [htip]
        exact Std.min_le_right
      simp [hcut]

/-- Below the tip the old tip stays, and is looked up anew in a store with one header more. -/
theorem tip?_insert_of_not_above {s : Store} {p : Placed} (h : s.isAboveTip p.height = false) :
    (s.insert p).tip? = s.tipHash.bind fun d => if p.hash = d then some p else s.tip? := by
  show (if s.isAboveTip p.height then some p.hash else s.tipHash).bind (s.insert p).history = _
  rw [h, if_neg (by decide)]
  cases hd : s.tipHash with
  | none => rfl
  | some d => simp [history_insert, tip?, hd]

/-- Two stores with one tip. -/
structure SameTip (s t : Store) : Prop where
  tipHash_eq : s.tipHash = t.tipHash
  tip?_eq : s.tip? = t.tip?

namespace SameTip
variable {s t : Store}

theorem refl (s : Store) : SameTip s s := ⟨rfl, rfl⟩

theorem prune (h : SameTip s t) (height : UInt32) : SameTip (s.prune height) t :=
  ⟨h.tipHash_eq, (tip?_prune s height).trans h.tip?_eq⟩

theorem insert (h : SameTip s t) (p : Placed) : SameTip (s.insert p) (t.insert p) := by
  have habove : s.isAboveTip p.height = t.isAboveTip p.height := by
    unfold isAboveTip
    rw [h.tip?_eq]
  have hhash : (s.insert p).tipHash = (t.insert p).tipHash := by
    show (if s.isAboveTip p.height then some p.hash else s.tipHash) = _
    rw [habove, h.tipHash_eq]
    rfl
  refine ⟨hhash, ?_⟩
  cases hab : t.isAboveTip p.height with
  | true => rw [tip?_insert_of_above (habove.trans hab), tip?_insert_of_above hab]
  | false =>
    rw [tip?_insert_of_not_above (habove.trans hab), tip?_insert_of_not_above hab, h.tipHash_eq,
      h.tip?_eq]

end SameTip

/-! The heights of a run. -/

/-- Pruning raises the index that a store holds its chain from. -/
theorem Spans.prune {s : Store} {chain : Nat → Header} {lo hi : Nat} (hs : s.Spans chain lo hi)
    (height : UInt32) : ∃ lo', (s.prune height).Spans chain lo' hi := by
  have hcut : (s.cut height).toNat ≤ hi := by
    have hle : s.cut height ≤ (placedAt chain hi).height := by
      unfold cut
      rw [hs.tip?_eq]
      exact Std.min_le_right
    rw [UInt32.le_iff_toNat_le, height_placedAt chain hs.hi_lt] at hle
    exact hle
  refine ⟨max lo (s.cut height).toNat, Nat.max_le.mpr ⟨hs.lo_le, hcut⟩, hs.hi_lt,
    (tip?_prune s height).trans hs.tip?_eq, ?_⟩
  intro d p
  rw [history_prune, Option.filter_eq_some_iff, hs.history_iff, decide_eq_true_eq]
  constructor
  · rintro ⟨⟨i, hlo, hi', hd, rfl⟩, hp⟩
    rw [UInt32.le_iff_toNat_le, height_placedAt chain (Nat.lt_of_le_of_lt hi' hs.hi_lt)] at hp
    exact ⟨i, Nat.max_le.mpr ⟨hlo, hp⟩, hi', hd, rfl⟩
  · rintro ⟨i, hlo, hi', hd, rfl⟩
    obtain ⟨hlo, hp⟩ := Nat.max_le.mp hlo
    refine ⟨⟨i, hlo, hi', hd, rfl⟩, ?_⟩
    rw [UInt32.le_iff_toNat_le, height_placedAt chain (Nat.lt_of_le_of_lt hi' hs.hi_lt)]
    exact hp

/-- A header that the tip's store connects goes on with the chain. -/
theorem Spans.follows_succ {s : Store} {chain : Nat → Header} {lo hi : Nat} {p : Placed}
    (hs : s.Spans chain lo hi) (hf : Follows chain hi)
    (hinj : ∀ i ≤ hi + 1, ∀ j ≤ hi + 1, (chain i).hash = (chain j).hash → i = j)
    (hplace : s.placeNext (chain (hi + 1)) = .ok p) : Follows chain (hi + 1) := by
  refine ⟨?_, hinj⟩
  intro i hi'
  rcases Nat.lt_or_eq_of_le (Nat.le_of_lt_succ hi') with hlt | rfl
  · exact hf.parent_eq i hlt
  · exact ((placeNext_eq_ok_iff hs.tip?_eq).mp hplace).2.1

/-- A run that connects the next `k` blocks of a chain ends with the last of them as its tip. -/
theorem Spans.run {chain : Nat → Header} {ops : List Op} :
    ∀ {k lo hi : Nat} {s : Store}, s.Spans chain lo hi → Follows chain hi →
      (∀ i ≤ hi + k, ∀ j ≤ hi + k, (chain i).hash = (chain j).hash → i = j) →
      hi + k < 2 ^ 32 → s.connected ops = (List.range' (hi + 1) k).map chain →
      ∃ lo', (s.run ops).Spans chain lo' (hi + k) ∧ Follows chain (hi + k) ∧
        ((∀ op ∈ ops, op.isPush = true) → lo' = lo) := by
  induction ops with
  | nil =>
    intro k lo hi s hs hf _ _ hconn
    cases k with
    | zero => exact ⟨lo, hs, hf, fun _ => rfl⟩
    | succ k => cases hconn
  | cons op ops ih =>
    intro k lo hi s hs hf hinj hlt hconn
    cases op with
    | push h =>
      rcases s.push_cases h with ⟨fault, _, hoffer, hafter⟩ | ⟨p, hplace, hpush, hafter⟩
      · rw [connected_push_fault hoffer] at hconn
        obtain ⟨lo', hspans, hfollows, hall⟩ := ih hs hf hinj hlt hconn
        rw [run_cons, hafter]
        exact ⟨lo', hspans, hfollows, fun hp => hall (List.forall_mem_cons.mp hp).2⟩
      · rw [connected_push_ok hpush] at hconn
        cases k with
        | zero => cases hconn
        | succ k =>
          rw [List.range'_succ, List.map_cons] at hconn
          obtain ⟨rfl, hrest⟩ := List.cons.inj hconn
          have hf' := hs.follows_succ hf
            (fun i hi' j hj => hinj i (by omega) j (by omega)) hplace
          obtain ⟨s', hpush', hs'⟩ := hs.push hf' (Nat.lt_succ_self hi) (by omega)
          obtain rfl := Except.ok.inj (hpush.symm.trans hpush')
          have hsum : hi + 1 + k = hi + (k + 1) := by omega
          obtain ⟨lo', hspans, hfollows, hall⟩ := ih hs' hf'
            (by rw [hsum]; exact hinj) (by omega) hrest
          rw [hsum] at hspans hfollows
          rw [run_cons, hafter]
          exact ⟨lo', hspans, hfollows, fun hp => hall (List.forall_mem_cons.mp hp).2⟩
    | prune height =>
      obtain ⟨lo', hs'⟩ := hs.prune height
      obtain ⟨lo'', hspans, hfollows, _⟩ := ih hs' hf hinj hlt hconn
      refine ⟨lo'', hspans, hfollows, ?_⟩
      intro hp
      exact absurd (hp (.prune height) List.mem_cons_self) (by simp [Op.isPush])

end Retargeting.Store
