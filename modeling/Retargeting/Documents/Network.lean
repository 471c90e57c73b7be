import Retargeting.Json.Record
import Retargeting.Network

/- Networks as JSON documents: the name as a string, or as the one member of an
   object whose value is null. -/
namespace Retargeting.Network

open Json (Mismatch)

/-- The network that the contents of a string name. -/
def ofText (t : Json.Text) : Except Mismatch Network :=
  t.decode.bind fun cs =>
    match ofName? (String.ofList cs) with
    | some n => .ok n
    | none => .error (.unknownName cs (all.map name))

def ofJson : Json → Except Mismatch Network
  | .string t => ofText t
  | .object [(t, j)] =>
    (ofText t).bind fun n =>
      match j with
      | .null => .ok n
      | j => .error (.wrongType j.shape "unit variant")
  | .object [] => .error (.tooFew 0 "map with a single key")
  | .object ms => .error (.tooMany ms.length)
  | j => .error (.wrongType j.shape "string or map")

def toJson (n : Network) : Json := Json.ofChars n.name.toList

end Retargeting.Network
