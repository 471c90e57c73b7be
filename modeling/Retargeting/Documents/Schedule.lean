import Retargeting.Json.Record
import Retargeting.Rules

/- Schedules as JSON documents. The limit travels as a string of hexadecimal
   digits, written with `0x` in front and read by the rules of `Hex.literal?`.
   `load` is the way into the rules: it reads a document and refuses a schedule
   that has a fault. -/
namespace Retargeting

/-- A number spelled in hexadecimal digits. -/
def Json.hexNumber (j : Json) : Except Json.Mismatch Nat :=
  (Json.chars j).bind fun cs =>
    match Hex.literal? cs with
    | some n => .ok n
    | none => .error (.badHex cs)

/-- A number as a string of digits behind `0x`. -/
def Json.ofHexNumber (n : Nat) : Json := Json.ofChars ('0' :: 'x' :: Hex.digits n)

namespace Schedule

open Json (FieldReader Slot Mismatch)

def timespanField : FieldReader UInt32 := ⟨"target_timespan", Json.word⟩

def intervalField : FieldReader UInt32 := ⟨"interval", Json.word⟩

def limitField : FieldReader Nat := ⟨"max_target", Json.hexNumber⟩

def stallReliefField : FieldReader Bool := ⟨"allow_min_difficulty_blocks", Json.boolean⟩

def slots : List Slot :=
  [timespanField.slot, intervalField.slot, limitField.slot, stallReliefField.slot]

/-- The schedule that a JSON value describes, whether it has a fault or not. -/
def ofJson (j : Json) : Except Mismatch Schedule :=
  (Json.fields "ChainParameters" slots j).bind fun given =>
    (timespanField.get given).bind fun timespan =>
      (intervalField.get given).bind fun interval =>
        (limitField.get given).bind fun limit =>
          (stallReliefField.get given).map fun stallRelief =>
            ⟨timespan, interval, limit, stallRelief⟩

/-- The schedule that a JSON value describes when members have no order of
    their own and are visited by name. -/
def ofUnordered (j : Json) : Except Fault Schedule := (ofJson j.byName).mapError .document

def toJson (s : Schedule) : Json :=
  .object [Json.member timespanField.name (Json.ofWord s.timespan),
    Json.member intervalField.name (Json.ofWord s.interval),
    Json.member limitField.name (Json.ofHexNumber s.limit),
    Json.member stallReliefField.name (.bool s.stallRelief)]

/-- The schedule that a document describes, whether it has a fault or not. -/
def read (document : String) : Except Fault Schedule :=
  (Json.decode ofJson document).mapError .document

/-- The schedule as a document, one field a line. -/
def write (s : Schedule) : String := String.ofList s.toJson.indented

def checked (s : Schedule) : Except Fault Schedule := (RuleSet.ofSchedule s).map (·.schedule)

/-- The schedule that a document describes, unless it has a fault. -/
def load (document : String) : Except Fault Schedule := (read document).bind checked

end Schedule

end Retargeting
