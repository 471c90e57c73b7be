import Mathlib.Data.Fintype.Pigeonhole
import Retargeting.Rules.Anchor
import Retargeting.Rules.StallRelief

/- Walks to parents. Both backward walks of the rules follow parents for as long as a
   condition on each header and its parent allows: the anchor walk wants every parent one
   height down, the relief walk wants every header relieved. A path is such a stretch of a
   walk, so what a walk returns is said by where its path stops and why. The relief walk
   has no height to count down. It is cut off after as many headers as there are digests,
   and that many suffice: a walk that is longer has looked one digest up twice, goes round
   from there on, and has paths of every length. -/
namespace Retargeting

/-- A digest by its place among all digests. -/
def Digest.number (d : Digest) : Fin digestCount :=
  ⟨Bytes.toNat d.bytes, by
    have h := Bytes.toNat_lt d.bytes
    rw [d.length_bytes] at h
    exact h⟩

theorem Digest.number_injective : Function.Injective Digest.number := by
  intro d e heq
  apply Digest.eq_of_bytes
  apply Bytes.eq_of_toNat_eq
  · rw [Digest.length_bytes, Digest.length_bytes]
  · exact congrArg Fin.val heq

namespace History

/-- `q` is `n` parents behind `p`, with `allowed` of each header on the way and its parent. -/
def Path (v : History) (allowed : Placed → Placed → Prop) : Nat → Placed → Placed → Prop
  | 0, p, q => p = q
  | n + 1, p, q => ∃ m, v.parent? p = some m ∧ allowed p m ∧ v.Path allowed n m q

/-! Paths. -/

section
variable {v w : History} {allowed allowed' : Placed → Placed → Prop} {p q x : Placed} {m n : Nat}

theorem Path.ancestor?_eq (h : v.Path allowed n p q) : v.ancestor? n p = some q := by
  induction n generalizing p with
  | zero =>
    cases h
    rfl
  | succ n ih =>
    obtain ⟨x, hx, _, hpath⟩ := h
    rw [ancestor?, hx, Option.bind_some]
    exact ih hpath

/-- One length leads to one header. -/
theorem Path.unique (h : v.Path allowed n p q) (h' : v.Path allowed' n p x) : q = x := by
  have hq := h.ancestor?_eq
  rw [h'.ancestor?_eq] at hq
  exact (Option.some.inj hq).symm

theorem path_add_iff :
    v.Path allowed (m + n) p q ↔ ∃ x, v.Path allowed m p x ∧ v.Path allowed n x q := by
  induction m generalizing p with
  | zero => simp [Path]
  | succ m ih =>
    rw [Nat.succ_add]
    constructor
    · rintro ⟨y, hy, ha, hpath⟩
      obtain ⟨x, hx, hq⟩ := ih.mp hpath
      exact ⟨x, ⟨y, hy, ha, hx⟩, hq⟩
    · rintro ⟨x, ⟨y, hy, ha, hx⟩, hq⟩
      exact ⟨y, hy, ha, ih.mpr ⟨x, hx, hq⟩⟩

theorem path_one_iff : v.Path allowed 1 p q ↔ v.parent? p = some q ∧ allowed p q := by
  simp [Path]

/-- A path goes on by one header at its far end. -/
theorem path_succ_iff :
    v.Path allowed (n + 1) p q ↔
      ∃ x, v.Path allowed n p x ∧ v.parent? x = some q ∧ allowed x q := by
  simp only [path_add_iff, path_one_iff]

/-- A path ends where it starts, or at a header that is kept. -/
theorem Path.eq_or_kept (h : v.Path allowed n p q) : q = p ∨ ∃ d, v d = some q := by
  cases n with
  | zero => exact Or.inl (Eq.symm h)
  | succ n =>
    obtain ⟨x, _, hparent, _⟩ := path_succ_iff.mp h
    exact Or.inr ⟨x.header.parent, hparent⟩

theorem Path.take (h : v.Path allowed n p q) (hm : m ≤ n) : ∃ x, v.Path allowed m p x := by
  obtain ⟨k, rfl⟩ := Nat.exists_eq_add_of_le hm
  obtain ⟨x, hx, _⟩ := path_add_iff.mp h
  exact ⟨x, hx⟩

theorem Path.next (h : v.Path allowed n p q) (hm : m < n) (hx : v.Path allowed m p x) :
    ∃ y, v.parent? x = some y ∧ allowed x y := by
  obtain ⟨y, hy⟩ := h.take (Nat.succ_le_of_lt hm)
  obtain ⟨z, hz, hnext⟩ := path_succ_iff.mp hy
  rw [hx.unique hz]
  exact ⟨y, hnext⟩

/-- A path stays one under a condition that allows more. -/
theorem Path.mono (h : v.Path allowed n p q) (hsub : ∀ x y, allowed x y → allowed' x y) :
    v.Path allowed' n p q := by
  induction n generalizing p with
  | zero => exact h
  | succ n ih =>
    obtain ⟨x, hx, ha, hpath⟩ := h
    exact ⟨x, hx, hsub p x ha, ih hpath⟩

/-- A path stays one where all its look-ups have the same answer. -/
theorem Path.congr (h : v.Path allowed n p q)
    (hw : ∀ k < n, ∀ x, v.Path allowed k p x → w.parent? x = v.parent? x) :
    w.Path allowed n p q := by
  induction n generalizing q with
  | zero => exact h
  | succ n ih =>
    obtain ⟨x, hx, hq, ha⟩ := path_succ_iff.mp h
    refine path_succ_iff.mpr ⟨x, ih hx ?_, ?_, ha⟩
    · intro k hk
      exact hw k (Nat.lt_succ_of_lt hk)
    · rw [hw n (Nat.lt_succ_self n) x hx, hq]

/-- A path has its full length, or it stops at a header whose parent is not kept or not
    allowed. -/
theorem path_or_stop (v : History) (allowed : Placed → Placed → Prop) (p : Placed) (n : Nat) :
    (∃ q, v.Path allowed n p q) ∨
      ∃ k < n, ∃ x, v.Path allowed k p x ∧ ∀ y, v.parent? x = some y → ¬allowed x y := by
  induction n with
  | zero => exact Or.inl ⟨p, rfl⟩
  | succ n ih =>
    rcases ih with ⟨x, hx⟩ | ⟨k, hk, hstop⟩
    · by_cases hnext : ∃ y, v.parent? x = some y ∧ allowed x y
      · obtain ⟨y, hy, ha⟩ := hnext
        exact Or.inl ⟨y, path_succ_iff.mpr ⟨x, hx, hy, ha⟩⟩
      · refine Or.inr ⟨n, Nat.lt_succ_self n, x, hx, ?_⟩
        intro y hy ha
        exact hnext ⟨y, hy, ha⟩
    · exact Or.inr ⟨k, Nat.lt_succ_of_lt hk, hstop⟩

/-- A header that comes back to itself is behind itself at every multiple of the round. -/
theorem Path.round (h : v.Path allowed n p p) (m : Nat) : v.Path allowed (m * n) p p := by
  induction m with
  | zero => simp [Path]
  | succ m ih =>
    rw [Nat.succ_mul]
    exact path_add_iff.mpr ⟨p, ih, h⟩

/-- Of more look-ups than there are names to find anything under, two are for one name: a path
    of that many comes back to a header. -/
theorem Path.comes_round (h : v.Path allowed n p q) (names : Finset Digest)
    (hnames : ∀ d x, v d = some x → d ∈ names) (hlong : names.card < n) :
    ∃ i c x, v.Path allowed i p x ∧ v.Path allowed (c + 1) x x := by
  have hstep : ∀ k : Fin n, ∃ x y, v.Path allowed k p x ∧
      v.parent? x = some y ∧ v.Path allowed (k + 1) p y := by
    intro k
    obtain ⟨y, hy⟩ := h.take (Nat.succ_le_of_lt k.isLt)
    obtain ⟨x, hx, hp, _⟩ := path_succ_iff.mp hy
    exact ⟨x, y, hx, hp, hy⟩
  choose child parent _ hparent hpath using hstep
  obtain ⟨i, -, j, -, hne, heq⟩ := Finset.exists_ne_map_eq_of_card_lt_of_maps_to
    (f := fun k : Fin n => (child k).header.parent) (by rw [Finset.card_fin]; exact hlong)
    (fun k _ => hnames _ _ (hparent k))
  wlog hlt : i < j generalizing i j with hwlog
  · exact hwlog j i hne.symm heq.symm (lt_of_le_of_ne (not_lt.mp hlt) hne.symm)
  have hsame : parent i = parent j := by
    have hi := hparent i
    unfold parent? at hi
    rw [heq] at hi
    exact Option.some.inj (hi.symm.trans (hparent j))
  obtain ⟨c, hc⟩ := Nat.exists_eq_add_of_lt (Fin.lt_def.mp hlt)
  have hj := hpath j
  rw [hc, show i.val + c + 1 + 1 = i.val + 1 + (c + 1) by omega, ← hsame] at hj
  obtain ⟨x, hx, hrest⟩ := path_add_iff.mp hj
  obtain rfl := hx.unique (hpath i)
  exact ⟨i + 1, c, parent i, hpath i, hrest⟩

/-- A path that looks up more digests than there are comes round, and never ends. -/
theorem Path.endless (h : v.Path allowed (digestCount + 1) p q) (n : Nat) :
    ∃ x, v.Path allowed n p x := by
  have := Fintype.ofInjective Digest.number Digest.number_injective
  have hcard := Fintype.card_le_of_injective Digest.number Digest.number_injective
  rw [Fintype.card_fin] at hcard
  obtain ⟨i, c, x, hx, hround⟩ := h.comes_round Finset.univ (fun d _ _ => Finset.mem_univ d)
    (Nat.lt_succ_of_le hcard)
  have hlong : v.Path allowed (i + n * (c + 1)) p x :=
    path_add_iff.mpr ⟨x, hx, hround.round n⟩
  exact hlong.take (by rw [Nat.mul_succ]; omega)

end

/-! The anchor walk. -/

/-- A parent is one height below its child. -/
def OneBelow (child parent : Placed) : Prop := parent.height.toNat + 1 = child.height.toNat

instance (child parent : Placed) : Decidable (OneBelow child parent) :=
  inferInstanceAs (Decidable (_ = _))

/-- `q` is `n` parents behind `p`, each of them one height down. -/
abbrev Descends (v : History) : Nat → Placed → Placed → Prop := v.Path OneBelow

section
variable {v : History} {p q x : Placed} {n left steps : Nat} {tip : UInt32}

theorem Descends.height_eq (h : v.Descends n p q) : q.height.toNat + n = p.height.toNat := by
  induction n generalizing p with
  | zero =>
    cases h
    rfl
  | succ n ih =>
    obtain ⟨x, _, hx, hpath⟩ := h
    have := ih hpath
    unfold OneBelow at hx
    omega

theorem height_ne_zero (h : 0 < p.height.toNat) : p.height ≠ 0 := by
  intro hz
  rw [hz] at h
  exact absurd h (by decide)

/-- What the walk does after a descent it does from the descent's end. -/
theorem Descends.anchorFrom_eq (h : v.Descends n p q) (tip : UInt32) (steps left : Nat) :
    v.anchorFrom tip steps (n + left) p = v.anchorFrom tip steps left q := by
  induction n generalizing p with
  | zero =>
    cases h
    rw [Nat.zero_add]
  | succ n ih =>
    obtain ⟨x, hx, hbelow, hpath⟩ := h
    unfold OneBelow at hbelow
    rw [Nat.succ_add, anchorFrom, if_neg (height_ne_zero (by omega)), hx]
    simp only [hbelow, if_true]
    exact ih hpath

/-- A parent that is not kept is a checkpoint. -/
theorem anchorFrom_of_unkept (hpos : 0 < p.height.toNat) (h : v.parent? p = none) :
    v.anchorFrom tip steps (left + 1) p = .ok none := by
  rw [anchorFrom, if_neg (height_ne_zero hpos), h]

/-- A parent at any other height than one below is a fault. -/
theorem anchorFrom_of_broken (hpos : 0 < p.height.toNat) (h : v.parent? p = some q)
    (hq : ¬OneBelow p q) :
    v.anchorFrom tip steps (left + 1) p = .error (.history (.brokenLink p.height q.height)) := by
  unfold OneBelow at hq
  rw [anchorFrom, if_neg (height_ne_zero hpos), h]
  simp only [hq, if_false]

end

end History

/-! The relief walk. -/

namespace RuleSet

/-- `q` is `n` parents behind `p`, and every header before it is relieved. -/
abbrev Passes (r : RuleSet) (v : History) : Nat → Placed → Placed → Prop :=
  v.Path fun child _ => r.isRelieved child = true

/-- The walk from `p` stops at `q`, which is not relieved or has no parent that is kept. -/
def StopsAt (r : RuleSet) (v : History) (p q : Placed) : Prop :=
  ∃ n, r.Passes v n p q ∧ (r.isRelieved q = true → v.parent? q = none)

section
variable {r : RuleSet} {v w : History} {p q x : Placed} {m n : Nat}

theorem unrelieved?_eq_some_iff :
    r.unrelieved? v n p = some q ↔
      ∃ k < n, r.Passes v k p q ∧ (r.isRelieved q = true → v.parent? q = none) := by
  induction n generalizing p with
  | zero => simp [unrelieved?_zero]
  | succ n ih =>
    by_cases hrel : r.isRelieved p = true
    · cases hp : v.parent? p with
      | none =>
        -- the walk stops here for want of a parent
        rw [unrelieved?_of_unkept hrel hp, Option.some.injEq]
        constructor
        · rintro rfl
          exact ⟨0, Nat.succ_pos n, rfl, fun _ => hp⟩
        · rintro ⟨k, _, hpath, _⟩
          cases k with
          | zero => exact hpath
          | succ k =>
            obtain ⟨x, hx, _⟩ := hpath
            rw [hp] at hx
            cases hx
      | some x =>
        rw [unrelieved?_of_kept hrel hp, ih]
        constructor
        · rintro ⟨k, hk, hpath, hstop⟩
          exact ⟨k + 1, Nat.succ_lt_succ hk, ⟨x, hp, hrel, hpath⟩, hstop⟩
        · rintro ⟨k, hk, hpath, hstop⟩
          cases k with
          | zero =>
            cases hpath
            rw [hstop hrel] at hp
            cases hp
          | succ k =>
            obtain ⟨y, hy, _, hpath⟩ := hpath
            rw [hp] at hy
            cases hy
            exact ⟨k, Nat.lt_of_succ_lt_succ hk, hpath, hstop⟩
    · rw [unrelieved?_of_unrelieved hrel, Option.some.injEq]
      constructor
      · rintro rfl
        exact ⟨0, Nat.succ_pos n, rfl, fun h => absurd h hrel⟩
      · rintro ⟨k, _, hpath, _⟩
        cases k with
        | zero => exact hpath
        | succ k =>
          obtain ⟨_, _, h, _⟩ := hpath
          exact absurd h hrel

/-- The walk is cut off when it has looked at `n` headers and all of them lead on. -/
theorem unrelieved?_eq_none_iff : r.unrelieved? v n p = none ↔ ∃ q, r.Passes v n p q := by
  constructor
  · intro hnone
    rcases History.path_or_stop v (fun child _ => r.isRelieved child = true) p n with h | h
    · exact h
    · obtain ⟨k, hk, x, hx, hstop⟩ := h
      have hsome : r.unrelieved? v n p = some x := by
        refine unrelieved?_eq_some_iff.mpr ⟨k, hk, hx, ?_⟩
        intro hrel
        cases hp : v.parent? x with
        | none => rfl
        | some y => exact absurd hrel (hstop y hp)
      rw [hnone] at hsome
      cases hsome
  · rintro ⟨q, hq⟩
    cases hcut : r.unrelieved? v n p with
    | none => rfl
    | some x =>
      obtain ⟨k, hk, hx, hstop⟩ := unrelieved?_eq_some_iff.mp hcut
      -- the path goes past the header that the walk is said to stop at
      obtain ⟨j, rfl⟩ := Nat.exists_eq_add_of_lt hk
      rw [Nat.add_assoc] at hq
      obtain ⟨y, hy, hrest⟩ := History.path_add_iff.mp hq
      obtain rfl := hx.unique hy
      obtain ⟨z, hz, hrel, _⟩ := hrest
      rw [hstop hrel] at hz
      cases hz

theorem StopsAt.unique (h : r.StopsAt v p q) (h' : r.StopsAt v p x) : q = x := by
  obtain ⟨m, hm, hq⟩ := h
  obtain ⟨n, hn, hx⟩ := h'
  have hfirst : r.unrelieved? v (m + n + 1) p = some q :=
    unrelieved?_eq_some_iff.mpr ⟨m, by omega, hm, hq⟩
  have hsecond : r.unrelieved? v (m + n + 1) p = some x :=
    unrelieved?_eq_some_iff.mpr ⟨n, by omega, hn, hx⟩
  rw [hfirst] at hsecond
  exact Option.some.inj hsecond

/-- As many headers as there are digests, and one more, cut off no walk that stops. -/
theorem unrelieved?_digestCount_eq_some_iff :
    r.unrelieved? v (digestCount + 1) p = some q ↔ r.StopsAt v p q := by
  constructor
  · intro h
    obtain ⟨k, _, hstop⟩ := unrelieved?_eq_some_iff.mp h
    exact ⟨k, hstop⟩
  · intro h
    cases hcut : r.unrelieved? v (digestCount + 1) p with
    | some x =>
      obtain ⟨k, _, hx⟩ := unrelieved?_eq_some_iff.mp hcut
      rw [h.unique ⟨k, hx⟩]
    | none =>
      -- a walk that is cut off leads on for ever, past the header that this one stops at
      obtain ⟨y, hy⟩ := unrelieved?_eq_none_iff.mp hcut
      obtain ⟨k, hk⟩ := h
      have hsome : r.unrelieved? v (k + 1) p = some q :=
        unrelieved?_eq_some_iff.mpr ⟨k, Nat.lt_succ_self k, hk⟩
      rw [unrelieved?_eq_none_iff.mpr (hy.endless (k + 1))] at hsome
      cases hsome

theorem unrelieved?_digestCount_eq_none_iff :
    r.unrelieved? v (digestCount + 1) p = none ↔ ∀ n, ∃ q, r.Passes v n p q := by
  constructor
  · intro h n
    obtain ⟨q, hq⟩ := unrelieved?_eq_none_iff.mp h
    exact hq.endless n
  · intro h
    exact unrelieved?_eq_none_iff.mpr (h _)

end

end RuleSet

end Retargeting
