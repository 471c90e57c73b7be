import Retargeting.Binary64.Shortest
import Retargeting.Json.Parser
import Retargeting.Json.Printer

/- Numbers that are held in binary floating point: those not written as integers,
   and integers too wide for 64 bits. Of a literal's digits the significand takes
   as many as stay below 2^64; the rest only count as places. What is held is
   written in the shortest decimal that reads back, in full from ten to the power
   -5 up to ten to the power 15, and with an exponent beyond. -/
namespace Retargeting.Json

/-- Whether an integer is held exactly: as a signed or an unsigned number of 64
    bits. -/
def isExact (n : Int) : Bool := -0x8000000000000000 ≤ n && n < 0x10000000000000000

def Literal.ofInt (n : Int) : Literal := ⟨n < 0, Nat.toDigits 10 n.natAbs, [], []⟩

/-- Appends digits to a significand while it stays below 2^64; also the digits
    that are left. -/
def takeDigits : Nat → List Char → Nat × List Char
  | n, [] => (n, [])
  | n, d :: ds =>
    let next := Nat.ofDigitChars 10 [d] n
    if next < 0x10000000000000000 then takeDigits next ds else (n, d :: ds)

/-- The exponent that a literal spells. -/
def Literal.spelledExponent (l : Literal) : Int :=
  let (sg, ds) := sign (l.exponent.drop 1)
  let n : Int := Nat.ofDigitChars 10 ds 0
  if sg = ['-'] then -n else n

/-- The significand of a literal, and the power of ten that it counts: a digit
    left out before the point raises it, a digit taken in behind the point lowers
    it. -/
def Literal.scaled (l : Literal) : Nat × Int :=
  let (n, left) := takeDigits 0 l.whole
  let (m, unread) := takeDigits n l.fraction
  (m, l.spelledExponent + left.length - (l.fraction.length - unread.length : Nat))

/-- The magnitude that a literal stands for, unless it is too large. -/
def Literal.magnitude? (l : Literal) : Option Binary64 :=
  Binary64.ofDecimal? l.scaled.1 l.scaled.2

/-- The least power of ten that is written in full. -/
def plainFrom : Int := -5

/-- The greatest power of ten that is written in full. -/
def plainTo : Int := 15

/-- A decimal written in full, with a digit on both sides of the point. -/
def plain (d : Binary64.Decimal) : List Char :=
  if d.exponent < 0 then
    '0' :: '.' :: (List.replicate (d.exponent.natAbs - 1) '0' ++ d.digits)
  else
    let places := d.exponent.natAbs + 1
    let fraction := d.digits.drop places
    d.digits.take places ++ List.replicate (places - d.digits.length) '0'
      ++ '.' :: (if fraction = [] then ['0'] else fraction)

/-- A decimal written with an exponent, which has a sign and no more digits than
    it needs. -/
def scientific (d : Binary64.Decimal) : List Char :=
  let fraction := d.digits.drop 1
  d.digits.take 1 ++ (if fraction = [] then [] else '.' :: fraction)
    ++ 'e' :: (if d.exponent < 0 then '-' else '+') :: Nat.toDigits 10 d.exponent.natAbs

/-- A decimal as messages write it. -/
def shownDecimal (d : Binary64.Decimal) : List Char :=
  if plainFrom ≤ d.exponent ∧ d.exponent ≤ plainTo then plain d else scientific d

/-- What a literal stands for, as messages write it. -/
def Literal.shown (l : Literal) : List Char :=
  minus l.negative ++
    match l.magnitude? with
    | some x => shownDecimal x.shortest
    | none => ['i', 'n', 'f']

end Retargeting.Json
