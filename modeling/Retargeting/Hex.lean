/- Hexadecimal text. Numbers are written with the fewest lower-case digits, or
   with a fixed width when they stand for words and bytes. Reading is more
   liberal: `literal?` takes what a configuration file may hold, that is at most
   one `0x`, then at most one `+`, then digits of either case among which
   underscores may stand anywhere but first. -/
namespace Retargeting.Hex

/-- The fewest lower-case digits of `n`; zero is one digit. -/
def digits (n : Nat) : List Char := Nat.toDigits 16 n

/-- The digits of `n` with zeros in front, at least `width` of them. -/
def padded (width n : Nat) : List Char :=
  List.replicate (width - (digits n).length) '0' ++ digits n

/-- Two digits for each byte, in memory order. -/
def ofBytes (bs : List UInt8) : List Char := bs.flatMap fun b => padded 2 b.toNat

/-- The value of one digit, of either case. -/
def digit? (c : Char) : Option Nat :=
  if '0' ≤ c ∧ c ≤ '9' then some (c.toNat - '0'.toNat)
  else if 'a' ≤ c ∧ c ≤ 'f' then some (c.toNat - 'a'.toNat + 10)
  else if 'A' ≤ c ∧ c ≤ 'F' then some (c.toNat - 'A'.toNat + 10)
  else none

/-- The number that the digits spell after `acc`; underscores count for nothing. -/
def spelled? (acc : Nat) : List Char → Option Nat
  | [] => some acc
  | c :: rest =>
    if c = '_' then spelled? acc rest
    else (digit? c).bind fun d => spelled? (16 * acc + d) rest

/-- The text without one leading `0x`. -/
def dropMark : List Char → List Char
  | '0' :: 'x' :: rest => rest
  | s => s

/-- The text without one leading plus sign. -/
def dropPlus : List Char → List Char
  | '+' :: rest => rest
  | s => s

/-- Digits and underscores, at least one digit first. -/
def unsigned? : List Char → Option Nat
  | [] => none
  | '_' :: _ => none
  | s => spelled? 0 s

/-- A number as a configuration may write it. -/
def literal? (s : List Char) : Option Nat := unsigned? (dropPlus (dropMark s))

/-- A byte from its two digits. -/
def byte? (hi lo : Char) : Option UInt8 :=
  (digit? hi).bind fun h => (digit? lo).map fun l => UInt8.ofNat (16 * h + l)

/-- Bytes from two digits each; `none` on an odd count or a foreign character. -/
def toBytes? : List Char → Option (List UInt8)
  | [] => some []
  | [_] => none
  | hi :: lo :: rest => (byte? hi lo).bind fun b => (toBytes? rest).map (b :: ·)

end Retargeting.Hex
