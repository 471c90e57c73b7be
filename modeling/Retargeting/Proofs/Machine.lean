import Retargeting.Rules.Expectation

/- The rules in numbers of a fixed width. They are written out once more as a machine runs
   them, every operation in the type that it has there. An operation whose result the type
   does not hold traps, and so do a division by zero, a conversion that would change its
   value and a clamp between bounds that are crossed. One conversion changes its value on
   purpose, that of the time that a window took, which is narrowed to 32 bits and so is no
   checked operation. A schedule is looked at before anything is computed with it. -/
namespace Retargeting

/-! ## Checked operations -/

/-- What stops a program of fixed-width arithmetic. -/
inductive Trap where
  /-- The exact result is no number of the type. -/
  | overflow (result : Int)
  | zeroDivisor
  | crossedBounds (least most : Int)
  deriving DecidableEq

/-- The numbers of a machine type, from the least to the greatest. -/
structure Width where
  lo : Int
  hi : Int

namespace Width

def i32 : Width := ⟨-0x80000000, 0x7fffffff⟩

def u32 : Width := ⟨0, 0xffffffff⟩

def i64 : Width := ⟨-0x8000000000000000, 0x7fffffffffffffff⟩

def u64 : Width := ⟨0, 0xffffffffffffffff⟩

/-- The number itself, if the type holds it. -/
def exact (w : Width) (n : Int) : Except Trap Int :=
  if w.lo ≤ n ∧ n ≤ w.hi then .ok n else .error (.overflow n)

def add (w : Width) (a b : Int) : Except Trap Int := w.exact (a + b)

def sub (w : Width) (a b : Int) : Except Trap Int := w.exact (a - b)

def mul (w : Width) (a b : Int) : Except Trap Int := w.exact (a * b)

/-- The quotient, rounded towards zero. -/
def quot (w : Width) (a b : Int) : Except Trap Int :=
  if b = 0 then .error .zeroDivisor else w.exact (a.tdiv b)

/-- The remainder, which traps where the quotient does. -/
def rem (w : Width) (a b : Int) : Except Trap Int := (w.quot a b).map fun _ => a.tmod b

end Width

/-- The number held between two bounds. -/
def clamp (least most n : Int) : Except Trap Int :=
  if most < least then .error (.crossedBounds least most) else .ok (max least (min n most))

/-- The quotient of numbers of any length. -/
def naturalQuot (a b : Nat) : Except Trap Nat :=
  if b = 0 then .error .zeroDivisor else .ok (a / b)

section Operations
variable {w : Width} {a b n : Int}

theorem Width.exact_eq (hlo : w.lo ≤ n) (hhi : n ≤ w.hi) : w.exact n = .ok n :=
  if_pos ⟨hlo, hhi⟩

theorem Width.i32_exact (hlo : -0x80000000 ≤ n) (hhi : n ≤ 0x7fffffff) : i32.exact n = .ok n :=
  exact_eq hlo hhi

theorem Width.u32_exact (hlo : 0 ≤ n) (hhi : n ≤ 0xffffffff) : u32.exact n = .ok n :=
  exact_eq hlo hhi

theorem Width.i64_exact (hlo : -0x8000000000000000 ≤ n) (hhi : n ≤ 0x7fffffffffffffff) :
    i64.exact n = .ok n :=
  exact_eq hlo hhi

theorem Width.u64_exact (hlo : 0 ≤ n) (hhi : n ≤ 0xffffffffffffffff) : u64.exact n = .ok n :=
  exact_eq hlo hhi

/-- Natural numbers are divided as such. -/
theorem Width.quot_natCast {a b : Nat} (hb : 0 < b) (hlo : w.lo ≤ 0) (hhi : (a : Int) ≤ w.hi) :
    w.quot a b = .ok (a / b : Nat) := by
  have hle : ((a / b : Nat) : Int) ≤ a := Int.ofNat_le.mpr (Nat.div_le_self a b)
  rw [quot, if_neg (by omega), ← Int.ofNat_tdiv]
  exact exact_eq (Int.le_trans hlo (Int.natCast_nonneg _)) (Int.le_trans hle hhi)

theorem Width.rem_natCast {a b : Nat} (hb : 0 < b) (hlo : w.lo ≤ 0) (hhi : (a : Int) ≤ w.hi) :
    w.rem a b = .ok (a % b : Nat) := by
  rw [rem, quot_natCast hb hlo hhi, ← Int.ofNat_tmod]
  rfl

/-- A checked operation that may fail gives a number that the type holds just when the exact
    result is that number. -/
theorem Width.toOption_exact_eq_some_iff {m : Int} (hlo : w.lo ≤ m) (hhi : m ≤ w.hi) :
    (w.exact n).toOption = some m ↔ n = m := by
  unfold exact
  split
  · simp [Except.toOption]
  · next hout =>
    refine iff_of_false (by simp [Except.toOption]) ?_
    rintro rfl
    exact hout ⟨hlo, hhi⟩

theorem clamp_eq (h : a ≤ b) : clamp a b n = .ok (max a (min n b)) :=
  if_neg (by omega)

theorem naturalQuot_eq {a b : Nat} (hb : 0 < b) : naturalQuot a b = .ok (a / b) :=
  if_neg (by omega)

end Operations

namespace Machine

/-! ## The program -/

/-- The first fault of a schedule, if any. -/
def fault? (s : Schedule) : Except Trap (Option ScheduleFault) :=
  if s.interval = 0 then .ok (some .zeroInterval)
  else if s.timespan = 0 then .ok (some .zeroTimespan)
  else (Width.i32.quot 0x7fffffff swing).bind fun longest =>
    (Width.u32.exact longest).map fun longest =>
      if longest < (s.timespan.toNat : Int) then some (.longTimespan s.timespan)
      else if s.timespan < s.interval then some (.shortTimespan s.timespan s.interval)
      else if s.limit = 0 then some .zeroLimit
      else none

/-- The rule, unless the schedule has a fault. -/
def checked {α : Type} (s : Schedule) (rule : Except Trap (Except Fault α)) :
    Except Trap (Except Fault α) :=
  (fault? s).bind fun
    | some cause => .ok (.error (.schedule cause))
    | none => rule

/-- The time from one block to the next. -/
def spacing (s : Schedule) : Except Trap Int := Width.u32.quot s.timespan.toNat s.interval.toNat

/-- The latest time, by the tip, at which a block is not yet late. -/
def stallLimit (s : Schedule) (tip : Placed) : Except Trap Int :=
  (spacing s).bind fun seconds => (Width.i64.mul 2 seconds).bind fun late =>
    Width.i64.add tip.time.toNat late

/-- Whether a header may owe its target to relief. -/
def isRelieved (s : Schedule) (p : Placed) : Except Trap Bool :=
  (Width.u32.rem p.height.toNat s.interval.toNat).map fun place =>
    place ≠ 0 ∧ p.bits = s.limitBits

/-- The walk back over relieved headers. -/
def unrelieved? (s : Schedule) (v : History) : Nat → Placed → Except Trap (Option Placed)
  | 0, _ => .ok none
  | n + 1, p => (isRelieved s p).bind fun relieved =>
    if relieved then
      match v.parent? p with
      | some q => unrelieved? s v n q
      | none => .ok (some p)
    else .ok (some p)

/-- The target of a block that comes after `tip` inside a window. -/
def reliefBits (s : Schedule) (v : History) (tip : Placed) (candidate : Header) :
    Except Trap (Except Fault Compact) :=
  checked s <| (stallLimit s tip).bind fun late =>
    if late < candidate.time.toNat then .ok (.ok s.limitBits)
    else (unrelieved? s v (digestCount + 1) tip).map fun
      | some p => .ok p.bits
      | none => .error (.history (.endless tip.height))

/-- The time a window took, held within the swing about its timespan. -/
def countedTimespan (last first timespan : UInt32) : Except Trap Int :=
  (Width.i64.sub last.toNat first.toNat).bind fun difference =>
    (Width.i64.quot timespan.toNat swing).bind fun least =>
      (Width.i64.mul timespan.toNat swing).bind fun most =>
        -- the one conversion that may change its value
        clamp least most (difference.bmod 0x100000000)

/-- By how many bits a distance of so many bytes shifts. -/
def shiftCount (bytes : Int) : Except Trap Int :=
  (Width.u32.exact bytes).bind fun bytes => Width.u32.mul bytes 8

/-- The bits of a target that a length byte gives room to. -/
def precision (declared : Compact) : Except Trap Nat :=
  (Width.i32.sub declared.size 3).bind fun bytes =>
    if 0 ≤ bytes then (shiftCount bytes).map fun count => 0xffffff <<< count.toNat
    else (shiftCount bytes.natAbs).map fun count => 0xffffff >>> count.toNat

/-- The old target scaled by the time its window took. -/
def scaledTarget (s : Schedule) (last first : UInt32) (old : Compact) : Except Trap Nat :=
  (countedTimespan last first s.timespan).bind fun counted =>
    (Width.u64.exact counted).bind fun counted =>
      naturalQuot (old.target * counted.toNat) s.timespan.toNat

/-- The target, or the limit if that is harder. A target above the limit is reported with the
    height after `height`. -/
def capped (s : Schedule) (height : UInt32) (target : Nat) : Except Trap Nat :=
  if s.limit < target then (Width.u64.add height.toNat 1).map fun _ => s.limit else .ok target

/-- The target after a window that ended at `height`. -/
def scaled (s : Schedule) (height last first : UInt32) (old declared : Compact) :
    Except Trap Compact :=
  (scaledTarget s last first old).bind fun target =>
    (capped s height target).bind fun target =>
      (precision declared).map fun mask => .ofTarget (target &&& mask)

/-- The target after a window, by a schedule that is looked at first. -/
def retargeted (s : Schedule) (height last first : UInt32) (old declared : Compact) :
    Except Trap (Except Fault Compact) :=
  checked s <| (scaled s height last first old declared).map .ok

/-- The walk back to the first block of a window. A broken link is reported with the height
    that was wanted. -/
def anchorFrom (v : History) (tip : UInt32) (steps : Nat) :
    Nat → Placed → Except Trap (Except Fault (Option Placed))
  | 0, p => .ok (.ok (some p))
  | left + 1, p =>
    if p.height = 0 then .ok (.error (.history (.pastGenesis (steps - (left + 1)) steps tip)))
    else match v.parent? p with
      | none => .ok (.ok none)
      | some q =>
        if (Width.u32.add q.height.toNat 1).toOption = some (p.height.toNat : Int) then
          anchorFrom v tip steps left q
        else (Width.u32.sub p.height.toNat 1).map fun _ =>
          .error (.history (.brokenLink p.height q.height))

/-- How many steps back the window before the height `next` starts. -/
def lookback (s : Schedule) (next : Int) : Except Trap Int :=
  if next = s.interval.toNat then Width.u32.sub s.interval.toNat 1 else .ok s.interval.toNat

/-- What is expected of the block after `tip` at the end of a window. -/
def boundaryExpectation (s : Schedule) (v : History) (tip : Placed) (candidate : Header)
    (next : Int) : Except Trap (Except Fault Expectation) :=
  (lookback s next).bind fun steps =>
    (anchorFrom v tip.height steps.toNat steps.toNat tip).bind fun
      | .error fault => .ok (.error fault)
      | .ok none => .ok (.ok .checkpoint)
      | .ok (some anchor) =>
        (scaled s tip.height tip.time anchor.time tip.bits candidate.bits).map fun bits =>
          .ok (.bits bits)

/-- What is expected of `candidate` as the block after `tip`. -/
def expectation (s : Schedule) (v : History) (tip : Placed) (candidate : Header) :
    Except Trap (Except Fault Expectation) :=
  checked s <| (Width.u64.add tip.height.toNat 1).bind fun next =>
    (Width.u64.rem next s.interval.toNat).bind fun place =>
      if place = 0 then boundaryExpectation s v tip candidate next
      else if s.stallRelief then (reliefBits s v tip candidate).map fun bits => bits.map .bits
      else .ok (.ok (.bits tip.bits))

end Machine

end Retargeting
