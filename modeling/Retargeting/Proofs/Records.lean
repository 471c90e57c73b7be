import Mathlib.Data.List.Forall2
import Mathlib.Data.List.Nodup
import Retargeting.Json.Record
import Retargeting.Proofs.RoundTrip

/- Records read from their members or their items. What counts is that the members that
   are fields are the record's entries in some order, or that the items are the entries
   (`Holds`). If every value is one that its field's reader takes (`Spells`), then every
   field is given its own value (`Holds.fields_eq`), and the record is refused otherwise
   (`Holds.check_eq`). The order of the members decides nothing, and members of other
   names are skipped unread, repeated or not. -/
namespace Retargeting.Json

/-! ## Plain values -/

theorem integerIn_ofInt {lo hi n : Int} (wanted : String) (hlo : lo ≤ n) (hhi : n < hi) :
    integerIn lo hi wanted (ofInt n) = .ok n :=
  if_pos ⟨hlo, hhi⟩

theorem word_ofWord (w : UInt32) : word (ofWord w) = .ok w := by
  have hw : (w.toNat : Int) < 0x100000000 := by
    have := w.toNat_lt
    omega
  rw [word, ofWord, integerIn_ofInt "u32" (Int.natCast_nonneg _) hw]
  simp [Except.map]

/-- A string has characters just when it holds no half of a surrogate pair. -/
theorem Text.chars?_eq_some_iff (t : Text) (cs : List Char) :
    t.chars? = some cs ↔ t = Text.ofChars cs := by
  constructor
  · intro h
    induction t generalizing cs with
    | nil =>
      obtain rfl : [] = cs := Option.some_inj.mp h
      rfl
    | cons letter t ih =>
      cases letter with
      | half code => cases h
      | char c =>
        obtain ⟨rest, hrest, rfl⟩ := Option.map_eq_some_iff.mp h
        rw [ih rest hrest]
        rfl
  · rintro rfl
    exact Text.chars?_ofChars cs

theorem Text.decode_ofChars (cs : List Char) : Text.decode (Text.ofChars cs) = .ok cs := by
  rw [Text.decode, Text.chars?_ofChars]

theorem chars_ofChars (cs : List Char) : chars (ofChars cs) = .ok cs :=
  Text.decode_ofChars cs

/-- Only strings are read as characters. -/
theorem chars_eq_ok_iff (j : Json) (cs : List Char) : chars j = .ok cs ↔ j = ofChars cs := by
  refine ⟨fun h => ?_, fun h => h ▸ chars_ofChars cs⟩
  cases j with
  | string t =>
    cases ht : t.chars? with
    | none => simp [chars, Text.decode, ht] at h
    | some cs' =>
      obtain rfl : cs' = cs := by simpa [chars, Text.decode, ht] using h
      rw [(Text.chars?_eq_some_iff t cs').mp ht]
      rfl
  | _ => simp [chars] at h

/-! ## Fields -/

/-- Nothing is given under a name that is not given. -/
theorem lookup_eq_none {given : Given} {name : String} (h : name ∉ given.map Prod.fst) :
    given.lookup name = none := by
  apply List.lookup_eq_none_iff.mpr
  intro e he
  exact bne_iff_ne.mpr fun heq => h (heq ▸ List.mem_map_of_mem he)

/-- What is given under a name that is given once. -/
theorem lookup_of_mem {given : Given} (hnames : (given.map Prod.fst).Nodup) {e : String × Json}
    (he : e ∈ given) : given.lookup e.1 = some e.2 := by
  induction given with
  | nil => simp at he
  | cons f given ih =>
    obtain ⟨hnew, hrest⟩ := List.nodup_cons.mp hnames
    rcases List.mem_cons.mp he with rfl | hmem
    · exact List.lookup_cons_self
    · have hne : e.1 ≠ f.1 := fun heq => hnew (heq ▸ List.mem_map_of_mem hmem)
      rw [List.lookup_cons, beq_false_of_ne hne]
      exact ih hrest hmem

section Fields
variable {α : Type} {f : FieldReader α} {a : α} {j : Json}

theorem FieldReader.slot_ok (h : f.read j = .ok a) : f.slot.2 j = .ok () := by
  simp [FieldReader.slot, h, Except.map]

theorem FieldReader.get_eq {given : Given} (hgiven : given.lookup f.name = some j)
    (h : f.read j = .ok a) : f.get given = .ok a := by
  simp [FieldReader.get, hgiven, h]

end Fields

/-- The entries give the fields in their order, each a value that its reader takes. -/
def Spells (slots : List Slot) (entries : List (String × Json)) : Prop :=
  List.Forall₂ (fun slot e => e.1 = slot.1 ∧ slot.2 e.2 = .ok ()) slots entries

/-- The entries that are fields. -/
def own (slots : List Slot) (entries : List (String × Json)) : List (String × Json) :=
  entries.filter fun e => (slots.lookup e.1).isSome

/-- The entries as members of an object. -/
def members (entries : List (String × Json)) : List (Text × Json) :=
  entries.map fun e => member e.1 e.2

namespace Spells
variable {slots : List Slot} {entries : List (String × Json)}

theorem names (h : Spells slots entries) : entries.map Prod.fst = slots.map Prod.fst := by
  induction h with
  | nil => rfl
  | cons hentry _ ih => simp [hentry.1, ih]

/-- An entry is found among the fields, and its value is good there. -/
theorem lookup (h : Spells slots entries) (hnames : (slots.map Prod.fst).Nodup)
    {e : String × Json} (he : e ∈ entries) :
    ∃ check, slots.lookup e.1 = some check ∧ check e.2 = .ok () := by
  induction h with
  | nil => simp at he
  | @cons slot e₀ slots entries hentry hrest ih =>
    obtain ⟨hnew, hnames⟩ := List.nodup_cons.mp hnames
    rcases List.mem_cons.mp he with rfl | hmem
    · exact ⟨slot.2, by rw [hentry.1]; exact List.lookup_cons_self, hentry.2⟩
    · have hne : e.1 ≠ slot.1 := fun heq =>
        hnew (heq ▸ Spells.names hrest ▸ List.mem_map_of_mem hmem)
      rw [List.lookup_cons, beq_false_of_ne hne]
      exact ih hnames hmem

theorem own_eq (h : Spells slots entries) (hnames : (slots.map Prod.fst).Nodup) :
    own slots entries = entries := by
  apply List.filter_eq_self.mpr
  intro e he
  obtain ⟨check, hcheck, _⟩ := h.lookup hnames he
  simp [hcheck]

end Spells

/-! ## Members -/

section Visit
variable {slots : List Slot} {given : Given} {name : String} {j : Json} {rest : List (Text × Json)}

/-- A member that is no field is skipped, whatever its value. -/
theorem visit_skip (h : slots.lookup name = none) :
    visit slots given (member name j :: rest) = visit slots given rest := by
  simp [member, visit, Text.decode_ofChars, Except.bind, h]

/-- A field that comes for the first time with a good value is kept. -/
theorem visit_keep {check : Json → Except Mismatch Unit} (hslot : slots.lookup name = some check)
    (hnew : given.lookup name = none) (hgood : check j = .ok ()) :
    visit slots given (member name j :: rest) = visit slots ((name, j) :: given) rest := by
  simp [member, visit, Text.decode_ofChars, Except.bind, hslot, hnew, hgood]

/-- A field is kept only when it comes with a good value. -/
theorem check_of_visit_cons {check : Json → Except Mismatch Unit} {all : Given}
    (hslot : slots.lookup name = some check)
    (h : visit slots given (member name j :: rest) = .ok all) :
    check j = .ok () ∧ visit slots ((name, j) :: given) rest = .ok all := by
  rw [member, visit, Text.decode_ofChars] at h
  simp only [Except.bind, String.ofList_toList, hslot] at h
  split at h
  · cases h
  · cases hcheck : check j with
    | error fault => simp [hcheck] at h
    | ok _ => exact ⟨rfl, by simpa [hcheck] using h⟩

/-- Members are visited to the end when each field among them comes once, with a good value. -/
theorem visit_members (entries : List (String × Json))
    (hgood : ∀ e ∈ own slots entries, ∃ check, slots.lookup e.1 = some check ∧ check e.2 = .ok ()) :
    ∀ given : Given, ((own slots entries).map Prod.fst ++ given.map Prod.fst).Nodup →
      visit slots given (members entries) = .ok ((own slots entries).reverse ++ given) := by
  induction entries with
  | nil => exact fun given _ => rfl
  | cons e entries ih =>
    intro given hnames
    cases hslot : slots.lookup e.1 with
    | none =>
      have hown : own slots (e :: entries) = own slots entries := by simp [own, hslot]
      rw [hown] at hgood hnames ⊢
      rw [members, List.map_cons, visit_skip hslot]
      exact ih hgood given hnames
    | some check =>
      have hown : own slots (e :: entries) = e :: own slots entries := by simp [own, hslot]
      rw [hown] at hgood hnames ⊢
      obtain ⟨check', hslot', hcheck⟩ := hgood e List.mem_cons_self
      have hnew : given.lookup e.1 = none :=
        lookup_eq_none fun hmem =>
          (List.nodup_cons.mp hnames).1 (List.mem_append_right _ hmem)
      rw [members, List.map_cons, visit_keep hslot' hnew hcheck, List.reverse_cons,
        List.append_assoc]
      apply ih (fun e he => hgood e (List.mem_cons_of_mem _ he))
      exact List.nodup_middle.mpr hnames

/-- Members are visited to the end only when each field among them has a good value. -/
theorem check_of_visit (entries : List (String × Json)) : ∀ {given all : Given},
    visit slots given (members entries) = .ok all →
      ∀ e ∈ own slots entries, ∃ check, slots.lookup e.1 = some check ∧ check e.2 = .ok () := by
  induction entries with
  | nil => simp [own]
  | cons e entries ih =>
    intro given all hvisit
    rw [members, List.map_cons] at hvisit
    cases hslot : slots.lookup e.1 with
    | none =>
      rw [visit_skip hslot] at hvisit
      simpa [own, hslot] using ih hvisit
    | some check =>
      obtain ⟨hcheck, hrest⟩ := check_of_visit_cons hslot hvisit
      have hown : own slots (e :: entries) = e :: own slots entries := by simp [own, hslot]
      rw [hown, List.forall_mem_cons]
      exact ⟨⟨check, hslot, hcheck⟩, ih hrest⟩

end Visit

/-- An object gives each field its value if its members are the fields, each once, in any
    order and among members of other names. -/
theorem fields_object (record : String) {slots : List Slot} {entries found : List (String × Json)}
    (hnames : (slots.map Prod.fst).Nodup) (h : Spells slots entries)
    (hfound : (own slots found).Perm entries) :
    ∃ given, fields record slots (.object (members found)) = .ok given ∧
      ∀ e ∈ entries, given.lookup e.1 = some e.2 := by
  have hown : ((own slots found).map Prod.fst).Nodup := by
    rw [(hfound.map Prod.fst).nodup_iff, h.names]
    exact hnames
  have hvisit := visit_members found (fun e he => h.lookup hnames (hfound.mem_iff.mp he)) []
    (by simpa using hown)
  rw [List.append_nil] at hvisit
  refine ⟨(own slots found).reverse, hvisit, fun e he => ?_⟩
  apply lookup_of_mem
  · rw [List.map_reverse, List.nodup_reverse]
    exact hown
  · rw [List.mem_reverse]
    exact hfound.mem_iff.mpr he

/-! ## Items -/

section Items
variable {slots : List Slot} {entries : List (String × Json)} {wanted : String}

/-- Good items in the order of the fields are given to the fields. -/
theorem Spells.align_eq (h : Spells slots entries) :
    ∀ n, align wanted n slots (entries.map Prod.snd) = .ok entries := by
  induction h with
  | nil => exact fun n => rfl
  | cons hentry hrest ih =>
    intro n
    rw [List.map_cons, align, hentry.2, Except.bind, ih (n + 1), ← hentry.1]
    rfl

/-- Items are given to the fields only when each is good for its own. -/
theorem spells_of_align (hnames : entries.map Prod.fst = slots.map Prod.fst) :
    ∀ {n all}, align wanted n slots (entries.map Prod.snd) = .ok all → Spells slots entries := by
  induction entries generalizing slots with
  | nil =>
    intro n all _
    obtain rfl : slots = [] := List.map_eq_nil_iff.mp hnames.symm
    exact .nil
  | cons e entries ih =>
    intro n all hall
    obtain ⟨slot, slots, rfl, hname, htail⟩ := List.map_eq_cons_iff.mp hnames.symm
    rw [List.map_cons, align] at hall
    cases hcheck : slot.2 e.2 with
    | error fault => simp [hcheck, Except.bind] at hall
    | ok _ =>
      cases hrest : align wanted (n + 1) slots (entries.map Prod.snd) with
      | error fault => simp [hcheck, hrest, Except.bind, Except.map] at hall
      | ok given => exact .cons ⟨hname.symm, hcheck⟩ (ih htail.symm hrest)

end Items

/-! ## Members or items -/

/-- A value with the entries for the fields of a record: as members in any order, among
    members of other names, or as items in the order of the fields. -/
inductive Holds (slots : List Slot) (entries : List (String × Json)) : Json → Prop
  | members {found : List (String × Json)} (h : (own slots found).Perm entries) :
    Holds slots entries (.object (members found))
  | items : Holds slots entries (.array (entries.map Prod.snd))

namespace Holds
variable {slots : List Slot} {entries : List (String × Json)} {j : Json}

/-- A record gives each field the value that it holds for it, if all of them are good. -/
theorem fields_eq (h : Holds slots entries j) (record : String)
    (hnames : (slots.map Prod.fst).Nodup) (hspells : Spells slots entries) :
    ∃ given, fields record slots j = .ok given ∧ ∀ e ∈ entries, given.lookup e.1 = some e.2 := by
  cases h with
  | members hfound => exact fields_object record hnames hspells hfound
  | items =>
    refine ⟨entries, hspells.align_eq 0, fun e he => lookup_of_mem ?_ he⟩
    rw [hspells.names]
    exact hnames

/-- A record is read only if every value that it holds for a field is good. -/
theorem check_eq (h : Holds slots entries j) {record : String} {given : Given}
    (hnames : (slots.map Prod.fst).Nodup) (hentries : entries.map Prod.fst = slots.map Prod.fst)
    (hgiven : fields record slots j = .ok given) :
    ∀ e ∈ entries, ∃ check, slots.lookup e.1 = some check ∧ check e.2 = .ok () := by
  intro e he
  cases h with
  | members hfound => exact check_of_visit _ hgiven e (hfound.mem_iff.mpr he)
  | items => exact (spells_of_align hentries hgiven).lookup hnames he

end Holds

/-! ## Documents -/

theorem legible_members {entries : List (String × Json)} (h : ∀ e ∈ entries, e.2.Legible) :
    (Json.object (members entries)).Legible := by
  refine .object (fun m hm => ?_) (fun m hm => ?_)
  · obtain ⟨e, _, rfl⟩ := List.mem_map.mp hm
    exact Text.legible_ofChars e.1.toList
  · obtain ⟨e, he, rfl⟩ := List.mem_map.mp hm
    exact h e he

/-- A reader finds in a document the value that was written. -/
theorem decode_render {α : Type} (read : Json → Except Mismatch α) {l : Layout} (hl : l.Blank)
    {j : Json} (hj : j.Legible) : decode read (String.ofList (render l 0 j)) = read j := by
  rw [decode, String.toList_ofList, parse?_render hl hj]

end Retargeting.Json
