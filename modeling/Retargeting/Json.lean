/- JSON values. An object keeps its members in the order of the document, names
   repeated or not. A string keeps what was written closely enough to skip it
   unread: an escape that is half of a surrogate pair and stands alone is no
   character, yet a document may hold it where nobody looks. A number is an
   integer if it is written as one; of any other the spelling is kept. -/
namespace Retargeting

namespace Json

/-- What a string is made of: a character, or half of a surrogate pair that
    stands alone. -/
inductive Letter where
  | char (c : Char)
  | half (code : UInt16)
  deriving DecidableEq

abbrev Text := List Letter

/-- The spelling of a number: its sign, the digits before the point, those after
    it, if any, and the exponent with its mark and sign. -/
structure Literal where
  negative : Bool
  whole : List Char
  fraction : List Char
  exponent : List Char
  deriving DecidableEq

/-- A number: an integer written without fraction and exponent, or the spelling of
    any other. -/
inductive Number where
  | integer (n : Int)
  | real (literal : Literal)
  deriving DecidableEq

end Json

open Json in
inductive Json where
  | null
  | bool (b : Bool)
  | number (n : Number)
  | string (t : Text)
  | array (items : List Json)
  | object (members : List (Text × Json))
  deriving Inhabited

namespace Json

/-- A string of characters. -/
def Text.ofChars (cs : List Char) : Text := cs.map .char

/-- The characters of a string; `none` if it holds half of a surrogate pair. -/
def Text.chars? : Text → Option (List Char)
  | [] => some []
  | .char c :: rest => (Text.chars? rest).map (c :: ·)
  | .half _ :: _ => none

/-- The first halves of surrogate pairs. -/
def isLeading (code : UInt16) : Bool := 0xD800 ≤ code && code < 0xDC00

/-- The second halves of surrogate pairs. -/
def isTrailing (code : UInt16) : Bool := 0xDC00 ≤ code && code < 0xE000

/-- The character that two halves of a pair spell. -/
def joined (lead trail : UInt16) : Char :=
  Char.ofNat (0x10000 + (lead.toNat - 0xD800) * 0x400 + (trail.toNat - 0xDC00))

/-- Puts the code of an escape in front of a string: a first half joins a second
    half that follows it, and any other half stands alone. -/
def Text.consCode (code : UInt16) (t : Text) : Text :=
  if isLeading code then
    match t with
    | .half trail :: rest =>
      if isTrailing trail then .char (joined code trail) :: rest else .half code :: t
    | _ => .half code :: t
  else if isTrailing code then .half code :: t
  else .char (Char.ofNat code.toNat) :: t

def ofInt (n : Int) : Json := .number (.integer n)

def ofWord (w : UInt32) : Json := ofInt w.toNat

def ofChars (cs : List Char) : Json := .string (Text.ofChars cs)

/-- A member with a name of these characters. -/
def member (name : String) (j : Json) : Text × Json := (Text.ofChars name.toList, j)

theorem Text.chars?_ofChars (cs : List Char) : Text.chars? (Text.ofChars cs) = some cs := by
  induction cs with
  | nil => rfl
  | cons c cs ih => simpa [Text.ofChars, Text.chars?] using ih

end Json

end Retargeting
