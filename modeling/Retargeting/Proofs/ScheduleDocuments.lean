import Retargeting.Documents.Schedule
import Retargeting.Proofs.Records

/- Schedules as documents, written and read. Reading takes back what was written, whether
   the schedule has a fault or not, whatever blanks stand between the tokens and however
   the members are ordered (`read_render`, `ofJson_of_holds`). Loading asks for one thing
   more, that the schedule has no fault (`load_eq_ok_iff`), so what was loaded once is
   loaded again from its own document. -/
namespace Retargeting

open Json

theorem Json.hexNumber_ofHexNumber (n : Nat) : hexNumber (ofHexNumber n) = .ok n := by
  simp [hexNumber, ofHexNumber, chars_ofChars, Except.bind, Hex.literal?_marked]

namespace Schedule
variable (s : Schedule)

/-! ## Fields -/

/-- The fields with these values. -/
def entriesOf (timespan interval limit stallRelief : Json) : List (String × Json) :=
  [(timespanField.name, timespan), (intervalField.name, interval), (limitField.name, limit),
    (stallReliefField.name, stallRelief)]

/-- The fields with their values as they are written. -/
def entries : List (String × Json) :=
  [(timespanField.name, ofWord s.timespan), (intervalField.name, ofWord s.interval),
    (limitField.name, ofHexNumber s.limit), (stallReliefField.name, .bool s.stallRelief)]

theorem toJson_eq : s.toJson = .object (members s.entries) := rfl

theorem names_nodup : (slots.map Prod.fst).Nodup := by
  simp [slots, FieldReader.slot, timespanField, intervalField, limitField, stallReliefField]

/-- Each field's reader takes what is written for it. -/
theorem reads : timespanField.read (ofWord s.timespan) = .ok s.timespan ∧
    intervalField.read (ofWord s.interval) = .ok s.interval ∧
    limitField.read (ofHexNumber s.limit) = .ok s.limit ∧
    stallReliefField.read (.bool s.stallRelief) = .ok s.stallRelief := by
  simp [timespanField, intervalField, limitField, stallReliefField, word_ofWord,
    hexNumber_ofHexNumber, boolean]

section Given
variable {timespan interval limit stallRelief j : Json}

theorem spells_entriesOf (htimespan : timespanField.read timespan = .ok s.timespan)
    (hinterval : intervalField.read interval = .ok s.interval)
    (hlimit : limitField.read limit = .ok s.limit)
    (hrelief : stallReliefField.read stallRelief = .ok s.stallRelief) :
    Spells slots (entriesOf timespan interval limit stallRelief) :=
  .cons ⟨rfl, FieldReader.slot_ok htimespan⟩ (.cons ⟨rfl, FieldReader.slot_ok hinterval⟩
    (.cons ⟨rfl, FieldReader.slot_ok hlimit⟩ (.cons ⟨rfl, FieldReader.slot_ok hrelief⟩ .nil)))

/-- A value describes the schedule whose fields its values for the fields are read as. -/
theorem ofJson_of_holds (h : Holds slots (entriesOf timespan interval limit stallRelief) j)
    (htimespan : timespanField.read timespan = .ok s.timespan)
    (hinterval : intervalField.read interval = .ok s.interval)
    (hlimit : limitField.read limit = .ok s.limit)
    (hrelief : stallReliefField.read stallRelief = .ok s.stallRelief) : ofJson j = .ok s := by
  obtain ⟨given, hfields, hgiven⟩ := h.fields_eq "ChainParameters" names_nodup
    (s.spells_entriesOf htimespan hinterval hlimit hrelief)
  simp only [entriesOf, List.forall_mem_cons] at hgiven
  obtain ⟨gtimespan, ginterval, glimit, grelief, _⟩ := hgiven
  rw [ofJson, hfields]
  simp only [Except.bind, Except.map, FieldReader.get_eq gtimespan htimespan,
    FieldReader.get_eq ginterval hinterval, FieldReader.get_eq glimit hlimit,
    FieldReader.get_eq grelief hrelief]

/-- No value describes a schedule whose text for the limit is no number. -/
theorem limit_read_of_ofJson (h : Holds slots (entriesOf timespan interval limit stallRelief) j)
    {t : Schedule} (ht : ofJson j = .ok t) : ∃ n, limitField.read limit = .ok n := by
  rw [ofJson] at ht
  cases hfields : fields "ChainParameters" slots j with
  | error fault => simp [hfields, Except.bind] at ht
  | ok given =>
    obtain ⟨check, hcheck, hlimit⟩ :=
      h.check_eq names_nodup rfl hfields (limitField.name, limit) (by simp [entriesOf])
    obtain rfl : limitField.slot.2 = check := Option.some_inj.mp hcheck
    cases hread : limitField.read limit with
    | error fault => simp [FieldReader.slot, hread, Except.map] at hlimit
    | ok n => exact ⟨n, rfl⟩

end Given

theorem ofJson_toJson : ofJson s.toJson = .ok s := by
  obtain ⟨htimespan, hinterval, hlimit, hrelief⟩ := s.reads
  have hown : own slots s.entries = s.entries :=
    (s.spells_entriesOf htimespan hinterval hlimit hrelief).own_eq names_nodup
  exact s.ofJson_of_holds (.members (.of_eq hown)) htimespan hinterval hlimit hrelief

theorem legible_toJson : s.toJson.Legible := by
  rw [toJson_eq]
  apply legible_members
  simp only [entries, List.forall_mem_cons]
  refine ⟨.number trivial, .number trivial, .string (Text.legible_ofChars _), .bool _, ?_⟩
  simp

/-! ## Documents -/

/-- A written schedule is read back from every layout. -/
theorem read_render {l : Layout} (hl : l.Blank) :
    read (String.ofList (render l 0 s.toJson)) = .ok s := by
  rw [read, decode_render ofJson hl s.legible_toJson, ofJson_toJson]
  rfl

theorem checked_eq : checked s =
    match s.fault? with
    | none => .ok s
    | some cause => .error (.schedule cause) := by
  unfold checked RuleSet.ofSchedule
  split <;> simp_all [Except.map]

theorem checked_eq_ok_iff (t : Schedule) : checked s = .ok t ↔ s = t ∧ s.fault? = none := by
  rw [checked_eq]
  cases s.fault? <;> simp

/-- What a document describes is loaded when it has no fault, and is a schedule without one. -/
theorem load_eq_ok_iff (document : String) :
    load document = .ok s ↔ read document = .ok s ∧ s.fault? = none := by
  unfold load
  cases read document with
  | error fault => simp [Except.bind]
  | ok t =>
    simp only [Except.bind, checked_eq_ok_iff, Except.ok.injEq]
    exact and_congr_right fun h => by rw [h]

/-- Every schedule, sound or not, is read back from either written form. It is loaded from
    its document when it has no fault, and otherwise refused for the fault that it has; and
    a schedule that was loaded, from whatever document, has no fault and is loaded again
    from its own. -/
theorem documents_round_trip :
    read s.write = .ok s ∧
    read (String.ofList s.toJson.compact) = .ok s ∧
    load s.write =
      (match s.fault? with
      | none => .ok s
      | some cause => .error (.schedule cause)) ∧
    ∀ document, load document = .ok s → s.fault? = none ∧ load s.write = .ok s := by
  have hread : read s.write = .ok s := s.read_render Layout.blank_indented
  refine ⟨hread, s.read_render Layout.blank_compact, ?_, fun document h => ?_⟩
  · rw [load, hread, ← checked_eq]
    rfl
  · have hsound := ((load_eq_ok_iff s document).mp h).2
    exact ⟨hsound, (load_eq_ok_iff s s.write).mpr ⟨hread, hsound⟩⟩

/-- A schedule is loaded again that came as a list, its limit in bare digits. -/
theorem documents_round_trip_of_list :
    let s : Schedule := ⟨1209600, 2016, 0xffff, true⟩
    load "[1209600, 2016,\t\"0FF_fF\", true]" = .ok s ∧ s.fault? = none ∧
      load s.write = .ok s := by
  intro s
  have h : load "[1209600, 2016,\t\"0FF_fF\", true]" = .ok s := by decide +kernel
  exact ⟨h, (documents_round_trip s).2.2.2 _ h⟩

end Schedule

end Retargeting
