/- Binary floating point with 53 significant bits. A finite magnitude is a whole
   number of least units of 2^-1074 and so one natural number, whose bits below
   the leading 53 are zero. An operation is its exact result, rounded once to the
   nearest magnitude. A decimal is read in two such steps: its significand is
   rounded, then it is scaled by a power of ten that is rounded as well. -/
namespace Retargeting

namespace Binary64

/-- How many of the lowest bits a magnitude of about `units` leaves zero. -/
def scale (units : Nat) : Nat := units.log2 - 52

/-- The least number of units that is too large. -/
def bound : Nat := 1 <<< 2098

end Binary64

open Binary64 in
structure Binary64 where
  units : Nat
  short : (units >>> scale units) <<< scale units = units
  finite : units < bound
  deriving DecidableEq

namespace Binary64

/-- The quotient of two numbers, rounded to the nearest number, a half to the
    even one. -/
def halfEven (num den : Nat) : Nat :=
  if 2 * (num % den) < den ∨ (2 * (num % den) = den ∧ num / den % 2 = 0) then num / den
  else num / den + 1

theorem halfEven_le (num den : Nat) : halfEven num den ≤ num / den + 1 := by
  unfold halfEven
  split <;> omega

theorem log2_shiftLeft {m : Nat} (h : m ≠ 0) (s : Nat) : (m <<< s).log2 = m.log2 + s := by
  induction s generalizing m with
  | zero => rfl
  | succ s ih =>
    rw [Nat.shiftLeft_succ, Nat.log2_two_mul (by simp [h]), ih h, Nat.add_assoc]

/-- A significand of 53 bits, moved up, leaves the bits below it zero. -/
theorem short_shiftLeft {m : Nat} (h : m < 0x20000000000000) (s : Nat) :
    ((m <<< s) >>> scale (m <<< s)) <<< scale (m <<< s) = m <<< s := by
  have hs : scale (m <<< s) ≤ s := by
    by_cases hm : m = 0
    · simp [hm, scale]
    · have : m.log2 < 53 := (Nat.log2_lt hm).2 h
      rw [scale, log2_shiftLeft hm]
      omega
  apply Nat.eq_of_testBit_eq
  intro i
  rw [Nat.testBit_shiftLeft, Nat.testBit_shiftRight]
  by_cases hi : scale (m <<< s) ≤ i
  · simp [hi, Nat.add_sub_cancel' hi]
  · rw [Nat.testBit_shiftLeft]
    simp [hi]
    omega

/-- Rounding up may carry into one more bit, which leaves all others zero. -/
theorem short_shiftLeft_of_le {m : Nat} (h : m ≤ 0x20000000000000) (s : Nat) :
    ((m <<< s) >>> scale (m <<< s)) <<< scale (m <<< s) = m <<< s := by
  by_cases hm : m = 0x20000000000000
  · have e : m <<< s = 0x10000000000000 <<< (s + 1) := by rw [hm, Nat.shiftLeft_succ_inside]
    rw [e]
    exact short_shiftLeft (by decide) _
  · exact short_shiftLeft (by omega) s

def significand (num den : Nat) : Nat := halfEven num (den <<< scale (num / den))

theorem significand_le (num den : Nat) : significand num den ≤ 0x20000000000000 := by
  have h : num / (den <<< scale (num / den)) < 0x20000000000000 := by
    generalize hs : scale (num / den) = s
    generalize hq : num / (den <<< s) = q
    by_cases h0 : q = 0
    · omega
    · have hd : 0 < den <<< s := by
        rcases Nat.eq_zero_or_pos (den <<< s) with h | h
        · simp [h] at hq; omega
        · exact h
      have hle : q <<< s ≤ num / den := by
        rw [Nat.le_div_iff_mul_le (by
          rcases Nat.eq_zero_or_pos den with h | h
          · simp [h] at hd
          · exact h)]
        have := Nat.div_mul_le_self num (den <<< s)
        rw [hq] at this
        rw [Nat.shiftLeft_eq] at this ⊢
        rw [Nat.mul_assoc, Nat.mul_comm _ den]
        exact this
      have hx : num / den ≠ 0 := by
        intro h
        rw [h, Nat.le_zero_eq] at hle
        simp [h0] at hle
      have hl : (q <<< s).log2 ≤ (num / den).log2 :=
        Nat.lt_succ_iff.1 ((Nat.log2_lt (by simp [h0])).2 (Nat.lt_of_le_of_lt hle Nat.lt_log2_self))
      rw [log2_shiftLeft h0, ← hs, scale] at hl
      exact (Nat.log2_lt h0).1 (by omega : q.log2 < 53)
  have := halfEven_le num (den <<< scale (num / den))
  unfold significand
  omega

/-- The magnitude next to a quotient that counts least units, unless it is too
    large. -/
def nearest? (num den : Nat) : Option Binary64 :=
  let units := significand num den <<< scale (num / den)
  if h : units < bound then some ⟨units, short_shiftLeft_of_le (significand_le num den) _, h⟩
  else none

def ofNat? (n : Nat) : Option Binary64 := nearest? (n <<< 1074) 1

def mul? (x y : Binary64) : Option Binary64 := nearest? (x.units * y.units) (1 <<< 1074)

def div? (x y : Binary64) : Option Binary64 := nearest? (x.units <<< 1074) y.units

def zero : Binary64 := ⟨0, by decide, by decide⟩

def tenTo? (n : Nat) : Option Binary64 := ofNat? (Nat.pow 10 n)

/-- The largest power of ten that is not too large. -/
def topPower : Nat := 308

/-- `significand` times ten to the power `exponent`, for a significand below 2^64:
    divided by a power of ten, by two if one is not enough, and zero if two are
    not. -/
def ofDecimal? (significand : Nat) (exponent : Int) : Option Binary64 :=
  (ofNat? significand).bind fun x =>
    let n := exponent.natAbs
    if significand = 0 then some x
    else if 0 ≤ exponent then
      if n ≤ topPower then (tenTo? n).bind x.mul? else none
    else if n ≤ topPower then (tenTo? n).bind x.div?
    else if n ≤ 2 * topPower then
      (tenTo? topPower).bind fun top => (x.div? top).bind fun y =>
        (tenTo? (n - topPower)).bind y.div?
    else some zero

end Binary64

end Retargeting
