import Retargeting.Json.Place
import Retargeting.Json.Real
import Retargeting.Quoted

/- Why a document does not describe the record it should. A mismatch says what
   was found and what was wanted; `message` words it. Integers beyond 64 bits are
   no integers to a message, which calls them floating point. -/
namespace Retargeting.Json

/-- What a message says of a value that has the wrong kind. -/
inductive Shape where
  | null
  | bool (b : Bool)
  | integer (n : Int)
  | real (literal : Literal)
  | text (cs : List Char)
  | sequence
  | map
  deriving DecidableEq

def Number.shape : Number → Shape
  | .integer n => if isExact n then .integer n else .real (.ofInt n)
  | .real literal => .real literal

def shape : Json → Shape
  | .null => .null
  | .bool b => .bool b
  | .number x => x.shape
  | .string t => .text (t.filterMap fun | .char c => some c | .half _ => none)
  | .array _ => .sequence
  | .object _ => .map

/-- How a document fails to describe a record. -/
inductive Mismatch where
  /-- The text is no JSON document. -/
  | malformed
  /-- A name or a wanted string holds half of a surrogate pair. -/
  | brokenText
  | wrongType (found : Shape) (wanted : String)
  | outOfRange (found : Int) (wanted : String)
  | missing (field : String)
  | repeated (field : String)
  /-- A list ends before the record does. -/
  | tooFew (found : Nat) (wanted : String)
  /-- A list goes on after the record. -/
  | tooMany (found : Nat)
  | unknownName (found : List Char) (wanted : List String)
  /-- A string does not spell a number in hexadecimal digits. -/
  | badHex (found : List Char)
  deriving DecidableEq

/-- A name as a message sets it off. -/
def ticked (s : String) : String := "`" ++ s ++ "`"

def Shape.message : Shape → String
  | .null => "null"
  | .bool true => "boolean " ++ ticked "true"
  | .bool false => "boolean " ++ ticked "false"
  | .integer n => "integer " ++ ticked (String.ofList (integerDigits n))
  | .real literal => "floating point " ++ ticked (String.ofList literal.shown)
  | .text cs => "string " ++ String.ofList (Quoted.encode cs)
  | .sequence => "sequence"
  | .map => "map"

def Mismatch.wording : Mismatch → String
  | .malformed => "not a JSON document"
  | .brokenText => "lone surrogate in string"
  | .wrongType found wanted => "invalid type: " ++ found.message ++ ", expected " ++ wanted
  | .outOfRange found wanted =>
    "invalid value: " ++ (Shape.integer found).message ++ ", expected " ++ wanted
  | .missing field => "missing field " ++ ticked field
  | .repeated field => "duplicate field " ++ ticked field
  | .tooFew found wanted =>
    "invalid length " ++ toString found ++ ", expected " ++ wanted
  | .tooMany found =>
    "invalid length " ++ toString found ++ ", expected fewer elements in array"
  | .unknownName found wanted =>
    "unknown variant " ++ ticked (String.ofList found) ++ ", expected "
      ++ " or ".intercalate (wanted.map ticked)
  | .badHex found => "invalid hex target: " ++ String.ofList found

/-- The message of a mismatch: its wording, with a place at its end written as
    every place is. -/
def Mismatch.message (m : Mismatch) : String := String.ofList (placed m.wording.toList)

end Retargeting.Json
