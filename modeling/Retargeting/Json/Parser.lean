import Retargeting.Hex
import Retargeting.Json

/- Reading JSON. Blanks are the space, the tab and the two line ends; a number
   has no leading zeros and a digit on both sides of its point; a string holds
   no character below the blank; no comma stands before a closing bracket; and
   nothing but blanks follows the value. Readers return what they read with the
   rest of the input. Values nest, so their reader counts down a bound on its
   calls; `parse?` gives it two for each character, which is more than any input
   can use. -/
namespace Retargeting.Json

/-- The characters that may stand between tokens. -/
def isBlank (c : Char) : Bool := c = ' ' || c = '\t' || c = '\n' || c = '\r'

def skipBlanks (s : List Char) : List Char := s.dropWhile isBlank

def digits? (s : List Char) : Option (List Char × List Char) :=
  match s.takeWhile Char.isDigit with
  | [] => none
  | d :: ds => some (d :: ds, s.dropWhile Char.isDigit)

/-- The digits before the point: a zero stands alone. -/
def whole? (s : List Char) : Option (List Char × List Char) :=
  (digits? s).bind fun (ds, rest) =>
    if ds.head? = some '0' ∧ ds ≠ ['0'] then none else some (ds, rest)

def fraction? : List Char → Option (List Char × List Char)
  | '.' :: rest => digits? rest
  | s => some ([], s)

def sign : List Char → List Char × List Char
  | '+' :: rest => (['+'], rest)
  | '-' :: rest => (['-'], rest)
  | s => ([], s)

def exponent? : List Char → Option (List Char × List Char)
  | [] => some ([], [])
  | c :: rest =>
    if c = 'e' ∨ c = 'E' then
      let (sg, rest) := sign rest
      (digits? rest).map fun (ds, rest) => (c :: (sg ++ ds), rest)
    else some ([], c :: rest)

/-- The number that these parts spell: an integer if it has neither fraction nor
    exponent and is no negative zero. -/
def Number.ofParts (negative : Bool) (whole fraction exponent : List Char) : Number :=
  let n := Nat.ofDigitChars 10 whole 0
  if fraction = [] ∧ exponent = [] ∧ ¬(negative ∧ n = 0) then
    .integer (if negative then -(n : Int) else n)
  else .real ⟨negative, whole, fraction, exponent⟩

/-- A number without its minus sign. -/
def unsigned? (negative : Bool) (s : List Char) : Option (Number × List Char) :=
  (whole? s).bind fun (whole, s) => (fraction? s).bind fun (fraction, s) =>
    (exponent? s).map fun (exponent, s) => (Number.ofParts negative whole fraction exponent, s)

/-- A number at the head of the input. -/
def number? : List Char → Option (Number × List Char)
  | '-' :: rest => unsigned? true rest
  | s => unsigned? false s

/-- The code that four digits of an escape spell. -/
def code? (a b c d : Char) : Option UInt16 :=
  (Hex.digit? a).bind fun a => (Hex.digit? b).bind fun b =>
    (Hex.digit? c).bind fun c => (Hex.digit? d).map fun d =>
      UInt16.ofNat (((a * 16 + b) * 16 + c) * 16 + d)

/-- The character that a one-letter escape stands for. -/
def unescaped? (c : Char) : Option Char :=
  if c = '"' ∨ c = '\\' ∨ c = '/' then some c
  else if c = 'b' then some '\x08'
  else if c = 'f' then some '\x0c'
  else if c = 'n' then some '\n'
  else if c = 'r' then some '\r'
  else if c = 't' then some '\t'
  else none

/-- A string after its opening quote. -/
def text? : List Char → Option (Text × List Char)
  | [] => none
  | '"' :: rest => some ([], rest)
  | '\\' :: 'u' :: a :: b :: c :: d :: rest =>
    (code? a b c d).bind fun code => (text? rest).map fun (t, rest) => (Text.consCode code t, rest)
  | '\\' :: c :: rest =>
    (unescaped? c).bind fun c => (text? rest).map fun (t, rest) => (.char c :: t, rest)
  | c :: rest =>
    if c < ' ' then none else (text? rest).map fun (t, rest) => (.char c :: t, rest)

mutual

/-- A value at the head of the input. -/
def value? : Nat → List Char → Option (Json × List Char)
  | 0, _ => none
  | n + 1, s =>
    match s with
    | 'n' :: 'u' :: 'l' :: 'l' :: rest => some (.null, rest)
    | 't' :: 'r' :: 'u' :: 'e' :: rest => some (.bool true, rest)
    | 'f' :: 'a' :: 'l' :: 's' :: 'e' :: rest => some (.bool false, rest)
    | '"' :: rest => (text? rest).map fun (t, rest) => (.string t, rest)
    | '[' :: rest =>
      match skipBlanks rest with
      | ']' :: rest => some (.array [], rest)
      | rest => (items? n rest).map fun (js, rest) => (.array js, rest)
    | '\x7b' :: rest =>
      match skipBlanks rest with
      | '\x7d' :: rest => some (.object [], rest)
      | rest => (members? n rest).map fun (ms, rest) => (.object ms, rest)
    | s => (number? s).map fun (x, rest) => (.number x, rest)

/-- One or more items up to the closing bracket. -/
def items? : Nat → List Char → Option (List Json × List Char)
  | 0, _ => none
  | n + 1, s =>
    (value? n s).bind fun (j, rest) =>
      match skipBlanks rest with
      | ',' :: rest => (items? n (skipBlanks rest)).map fun (js, rest) => (j :: js, rest)
      | ']' :: rest => some ([j], rest)
      | _ => none

/-- One or more members up to the closing brace. -/
def members? : Nat → List Char → Option (List (Text × Json) × List Char)
  | 0, _ => none
  | n + 1, s =>
    match s with
    | '"' :: rest =>
      (text? rest).bind fun (name, rest) =>
        match skipBlanks rest with
        | ':' :: rest =>
          (value? n (skipBlanks rest)).bind fun (j, rest) =>
            match skipBlanks rest with
            | ',' :: rest =>
              (members? n (skipBlanks rest)).map fun (ms, rest) => ((name, j) :: ms, rest)
            | '\x7d' :: rest => some ([(name, j)], rest)
            | _ => none
        | _ => none
    | _ => none

end

def parse? (s : List Char) : Option Json :=
  (value? (2 * s.length + 2) (skipBlanks s)).bind fun (j, rest) =>
    if skipBlanks rest = [] then some j else none

end Retargeting.Json
