import Retargeting.Digest
import Retargeting.Json.Mismatch
import Retargeting.Json.Parser

/- Records read from JSON. A record is an object with its fields as members, in
   any order and among members of other names, or a list of its fields in the
   order of the declaration. Members are visited as they stand and the first bad
   one decides; only then is a missing field reported, in the order of the
   declaration. Values of other members are never looked at. -/
namespace Retargeting.Json

/-! ## Plain values -/

/-- An integer from `lo` up to and without `hi`. -/
def integerIn (lo hi : Int) (wanted : String) : Json → Except Mismatch Int
  | .number (.integer n) =>
    if lo ≤ n ∧ n < hi then .ok n
    else if isExact n then .error (.outOfRange n wanted)
    else .error (.wrongType (Number.integer n).shape wanted)
  | j => .error (.wrongType j.shape wanted)

def word (j : Json) : Except Mismatch UInt32 :=
  (integerIn 0 0x100000000 "u32" j).map fun n => UInt32.ofNat n.toNat

def signedWord (j : Json) : Except Mismatch Int32 :=
  (integerIn (-0x80000000) 0x80000000 "i32" j).map Int32.ofInt

def byte (j : Json) : Except Mismatch UInt8 :=
  (integerIn 0 0x100 "u8" j).map fun n => UInt8.ofNat n.toNat

def boolean : Json → Except Mismatch Bool
  | .bool b => .ok b
  | j => .error (.wrongType j.shape "a boolean")

/-- The characters of a string. -/
def Text.decode (t : Text) : Except Mismatch (List Char) :=
  match Text.chars? t with
  | some cs => .ok cs
  | none => .error .brokenText

/-- A string without lone halves of surrogate pairs. -/
def chars : Json → Except Mismatch (List Char)
  | .string t => t.decode
  | j => .error (.wrongType j.shape "a string")

/-- The bytes of a list, the first bad one deciding. -/
def byteList : List Json → Except Mismatch (List UInt8)
  | [] => .ok []
  | j :: js => (byte j).bind fun b => (byteList js).map (b :: ·)

/-- A list of exactly thirty-two bytes. -/
def digest : Json → Except Mismatch Digest
  | .array js =>
    (byteList js).bind fun bs =>
      match Digest.ofBytes? bs with
      | some d => .ok d
      | none => if bs.length < 32 then .error (.tooFew bs.length "an array of length 32")
        else .error (.tooMany bs.length)
  | j => .error (.wrongType j.shape "an array of length 32")

def ofDigest (d : Digest) : Json := .array (d.bytes.map fun b => ofInt b.toNat)

/-! ## Records -/

/-- A field of a record: its name and the reader of its value. -/
structure FieldReader (α : Type) where
  name : String
  read : Json → Except Mismatch α

/-- A field that is only checked: its name, and what is wrong with a value. -/
abbrev Slot := String × (Json → Except Mismatch Unit)

/-- The check of a field: its reader without the result. -/
def FieldReader.slot {α : Type} (f : FieldReader α) : Slot :=
  (f.name, fun j => (f.read j).map fun _ => ())

/-- The fields that a document gives, by name. -/
abbrev Given := List (String × Json)

/-- Visits the members of an object after those in `given`. -/
def visit (slots : List Slot) : Given → List (Text × Json) → Except Mismatch Given
  | given, [] => .ok given
  | given, (key, j) :: rest =>
    key.decode.bind fun cs =>
      let name := String.ofList cs
      match slots.lookup name with
      | none => visit slots given rest
      | some check =>
        if (given.lookup name).isSome then .error (.repeated name)
        else (check j).bind fun _ => visit slots ((name, j) :: given) rest

/-- Pairs the items of a list with the fields, after `n` fields that are done. -/
def align (wanted : String) (n : Nat) : List Slot → List Json → Except Mismatch Given
  | [], [] => .ok []
  | [], extra => .error (.tooMany (n + extra.length))
  | _ :: _, [] => .error (.tooFew n wanted)
  | (name, check) :: slots, j :: js =>
    (check j).bind fun _ => (align wanted (n + 1) slots js).map ((name, j) :: ·)

/-- The fields that a value gives for a record of this name. -/
def fields (record : String) (slots : List Slot) : Json → Except Mismatch Given
  | .object ms => visit slots [] ms
  | .array js =>
    align ("struct " ++ record ++ " with " ++ toString slots.length ++ " elements") 0 slots js
  | j => .error (.wrongType j.shape ("struct " ++ record))

/-- The value of a field, which must be given. -/
def FieldReader.get {α : Type} (f : FieldReader α) (given : Given) : Except Mismatch α :=
  match given.lookup f.name with
  | some j => f.read j
  | none => .error (.missing f.name)

/-- What a reader makes of a document. -/
def decode {α : Type} (read : Json → Except Mismatch α) (document : String) : Except Mismatch α :=
  match parse? document.toList with
  | some j => read j
  | none => .error .malformed

/-- The members that no later one of the same name follows. -/
def lastOfName : List (Text × Json) → List (Text × Json)
  | [] => []
  | m :: ms => if (ms.lookup m.1).isSome then lastOfName ms else m :: lastOfName ms

/-- The object as a table: of members of one name the last one counts, and names
    ascend. Other values are as they are. -/
def byName : Json → Json
  | .object ms => .object ((lastOfName ms).mergeSort fun a b =>
      String.ofList ((Text.chars? a.1).getD []) ≤ String.ofList ((Text.chars? b.1).getD []))
  | j => j

end Retargeting.Json
