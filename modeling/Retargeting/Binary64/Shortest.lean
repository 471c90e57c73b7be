import Retargeting.Binary64

/- The fewest decimal digits that read back. The numbers that round to a magnitude
   lie between the midpoints to its two neighbours, with the midpoints themselves
   if its significand is even. Grids of one digit, of two digits and so on are
   tried in turn, each at the two points next to the magnitude, the nearer one
   first and the even one of two equally near. A decimal counts steps of 10^-400,
   which are finer than every grid that is tried. -/
namespace Retargeting.Binary64

/-- A decimal: its digits, the first of which counts ten to the power `exponent`. -/
structure Decimal where
  digits : List Char
  exponent : Int
  deriving DecidableEq

/-- How far the next magnitude is above `units`, in least units. -/
def gap (units : Nat) : Nat := 1 <<< scale units

/-- The decimal steps of the unit. -/
def steps : Nat := Nat.pow 10 400

/-- Whether a decimal of so many steps rounds to the magnitude. -/
def readsBack (x : Binary64) (decimal : Nat) : Bool :=
  let low := (2 * x.units - gap (x.units - 1)) * steps
  let high := (2 * x.units + gap x.units) * steps
  let twice := (2 * decimal) <<< 1074
  if (x.units >>> scale x.units) % 2 = 0 then low ≤ twice && twice ≤ high
  else low < twice && twice < high

/-- The point next to the magnitude on the grid of ten to the power `k` steps. -/
def nearPoint (x : Binary64) (k : Nat) : Nat := halfEven (x.units * steps) (Nat.pow 10 k <<< 1074)

/-- The grid point on the other side of the magnitude. -/
def farPoint (x : Binary64) (k : Nat) : Nat :=
  let below := x.units * steps / (Nat.pow 10 k <<< 1074)
  if x.nearPoint k = below then below + 1 else below

def point? (x : Binary64) (k : Nat) : Option Nat :=
  [x.nearPoint k, x.farPoint k].find? fun n => x.readsBack (n * Nat.pow 10 k)

/-- The decimal of `n` times ten to the power `k` steps, without zeros at its end. -/
def Decimal.ofPoint (n k : Nat) : Decimal :=
  let digits := Nat.toDigits 10 n
  ⟨(digits.reverse.dropWhile (· = '0')).reverse, (digits.length + k : Int) - 401⟩

/-- The shortest decimal that reads back, and of those the nearest. Seventeen
    digits always suffice, so the last grid is not tested. -/
def shortest (x : Binary64) : Decimal :=
  if x.units = 0 then ⟨['0'], 0⟩
  else
    let size := (Nat.toDigits 10 ((x.units * steps) >>> 1074)).length
    let found := (List.range 16).findSome? fun n =>
      (x.point? (size - (n + 1))).map fun p => Decimal.ofPoint p (size - (n + 1))
    found.getD (Decimal.ofPoint (x.nearPoint (size - 17)) (size - 17))

end Retargeting.Binary64
