import Retargeting.Hex
import Retargeting.Json

/- The written form of a JSON value. A `Layout` says what stands between the
   tokens: nothing, or line breaks and an indent of two columns for each level;
   one printer serves both. Escapes are the shortest ones, and characters from
   the blank upwards stand for themselves. -/
namespace Retargeting.Json

/-- What a printer puts between tokens. -/
structure Layout where
  /-- In front of an item of a list at this depth, and in front of its end. -/
  gap : Nat → List Char
  /-- Between a name and its value. -/
  colon : List Char

def Layout.compact : Layout := ⟨fun _ => [], [':']⟩

/-- One item a line, two columns for each level. -/
def Layout.indented : Layout := ⟨fun depth => '\n' :: List.replicate (2 * depth) ' ', [':', ' ']⟩

def escaped (c : Char) : List Char :=
  if c = '"' then ['\\', '"']
  else if c = '\\' then ['\\', '\\']
  else if c = '\x08' then ['\\', 'b']
  else if c = '\t' then ['\\', 't']
  else if c = '\n' then ['\\', 'n']
  else if c = '\x0c' then ['\\', 'f']
  else if c = '\r' then ['\\', 'r']
  else if c < ' ' then '\\' :: 'u' :: Hex.padded 4 c.toNat
  else [c]

def Letter.written : Letter → List Char
  | .char c => escaped c
  | .half code => '\\' :: 'u' :: Hex.padded 4 code.toNat

def Text.written (t : Text) : List Char := '"' :: (t.flatMap Letter.written ++ ['"'])

def integerDigits (n : Int) : List Char :=
  if n < 0 then '-' :: Nat.toDigits 10 n.natAbs else Nat.toDigits 10 n.natAbs

def minus (negative : Bool) : List Char := if negative then ['-'] else []

def Literal.written (l : Literal) : List Char :=
  minus l.negative ++ l.whole ++ (if l.fraction = [] then [] else '.' :: l.fraction) ++ l.exponent

def Number.written : Number → List Char
  | .integer n => integerDigits n
  | .real literal => literal.written

mutual

/-- The value as it stands at `depth`. -/
def render (l : Layout) (depth : Nat) : Json → List Char
  | .null => ['n', 'u', 'l', 'l']
  | .bool true => ['t', 'r', 'u', 'e']
  | .bool false => ['f', 'a', 'l', 's', 'e']
  | .number n => n.written
  | .string t => t.written
  | .array [] => ['[', ']']
  | .array (j :: js) =>
    '[' :: (l.gap (depth + 1) ++ render l (depth + 1) j ++ renderItems l (depth + 1) js
      ++ l.gap depth ++ [']'])
  | .object [] => ['\x7b', '\x7d']
  | .object (m :: ms) =>
    '\x7b' :: (l.gap (depth + 1) ++ m.1.written ++ l.colon ++ render l (depth + 1) m.2
      ++ renderMembers l (depth + 1) ms ++ l.gap depth ++ ['\x7d'])

/-- The items after the first. -/
def renderItems (l : Layout) (depth : Nat) : List Json → List Char
  | [] => []
  | j :: js => ',' :: (l.gap depth ++ render l depth j ++ renderItems l depth js)

/-- The members after the first. -/
def renderMembers (l : Layout) (depth : Nat) : List (Text × Json) → List Char
  | [] => []
  | m :: ms =>
    ',' :: (l.gap depth ++ m.1.written ++ l.colon ++ render l depth m.2
      ++ renderMembers l depth ms)

end

def compact (j : Json) : List Char := render Layout.compact 0 j

def indented (j : Json) : List Char := render Layout.indented 0 j

end Retargeting.Json
