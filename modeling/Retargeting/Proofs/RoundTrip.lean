import Retargeting.Json.Printer
import Retargeting.Proofs.Grammar

/- A JSON value, written and read. Any layout will do that puts only blanks between the
   tokens (`Layout.Blank`): what it writes is a text for the value (`Legible.denotes`), so
   the reader gives back the value that was written (`parse?_render`), as long as its
   numbers and strings are such as reading gives (`Legible`). Lists and objects are written
   member by member, each from what is known of its own value, so the induction over values
   is the rule induction of `Legible`. -/
namespace Retargeting.Json

/-! ## Layouts -/

/-- A layout that puts only blanks between the tokens. -/
structure Layout.Blank (l : Layout) : Prop where
  gap : ∀ depth, ∀ c ∈ l.gap depth, isBlank c = true
  colon : ∃ blanks, l.colon = ':' :: blanks ∧ ∀ c ∈ blanks, isBlank c = true

theorem Layout.blank_compact : Layout.compact.Blank where
  gap := by simp [Layout.compact]
  colon := ⟨[], rfl, by simp⟩

theorem Layout.blank_indented : Layout.indented.Blank where
  gap depth c hc := by
    rcases List.mem_cons.mp hc with rfl | hc
    · decide
    · rw [List.eq_of_mem_replicate hc]
      decide
  colon := ⟨[' '], rfl, by simp [isBlank]⟩

/-! ## Values -/

/-- A value that reading can give. -/
inductive Legible : Json → Prop
  | null : Legible .null
  | bool (b : Bool) : Legible (.bool b)
  | number {x : Number} (hx : x.Legible) : Legible (.number x)
  | string {t : Text} (ht : t.Legible) : Legible (.string t)
  | array {js : List Json} (hitems : ∀ j ∈ js, Legible j) : Legible (.array js)
  | object {ms : List (Text × Json)} (hnames : ∀ m ∈ ms, Text.Legible m.1)
      (hvalues : ∀ m ∈ ms, Legible m.2) : Legible (.object ms)

section Nested
variable {l : Layout} {depth : Nat} {gap : List Char}

/-- The items of a list, from the first on, and its end. -/
theorem denotes_items (hl : l.Blank) (hgap : Blanks gap) (js : List Json) :
    ∀ j, (∀ k ∈ j :: js, Denotes (render l depth k) (.value k)) →
      Denotes (l.gap depth ++ (render l depth j ++ (renderItems l depth js ++ (gap ++ [']']))))
        (.items (j :: js)) := by
  induction js with
  | nil =>
    intro j hitems
    exact .lastItem (hl.gap depth) (hitems j (by simp)) hgap
  | cons k js ih =>
    intro j hitems
    have hrest := ih k fun i hi => hitems i (List.mem_cons_of_mem j hi)
    simp only [renderItems, List.cons_append, List.append_assoc]
    exact .item (hl.gap depth) (hitems j (by simp)) blanks_nil hrest

/-- The members of an object, from the first on, and its end. -/
theorem denotes_members (hl : l.Blank) (hgap : Blanks gap) (ms : List (Text × Json)) :
    ∀ m, (∀ k ∈ m :: ms, Text.Legible k.1) →
      (∀ k ∈ m :: ms, Denotes (render l depth k.2) (.value k.2)) →
      Denotes (l.gap depth ++ (m.1.written ++ (l.colon ++ (render l depth m.2 ++
        (renderMembers l depth ms ++ (gap ++ ['\x7d'])))))) (.members (m :: ms)) := by
  obtain ⟨blanks, hcolon, hblanks⟩ := hl.colon
  have hnamed : ∀ (m : Text × Json) (s : List Char),
      m.1.written ++ (l.colon ++ (render l depth m.2 ++ s)) =
        named (m.1.flatMap Letter.written) [] blanks (render l depth m.2) ++ s := by
    simp [Text.written, named, hcolon]
  induction ms with
  | nil =>
    intro m hnames hvalues
    simp only [renderMembers, List.nil_append]
    rw [hnamed]
    exact .lastMember (hl.gap depth) (hnames m (by simp)).denotes blanks_nil hblanks
      (hvalues m (by simp)) hgap
  | cons k ms ih =>
    intro m hnames hvalues
    have hrest := ih k (fun i hi => hnames i (List.mem_cons_of_mem m hi))
      (fun i hi => hvalues i (List.mem_cons_of_mem m hi))
    simp only [renderMembers, List.cons_append, List.append_assoc]
    rw [hnamed]
    exact .member (hl.gap depth) (hnames m (by simp)).denotes blanks_nil hblanks
      (hvalues m (by simp)) blanks_nil hrest

end Nested

/-- What a layout of blanks writes for a value that reading can give is a text for it. -/
theorem Legible.denotes {l : Layout} (hl : l.Blank) {j : Json} (h : j.Legible) :
    ∀ depth, Denotes (render l depth j) (.value j) := by
  induction h with
  | null => exact fun depth => .null
  | bool b =>
    intro depth
    cases b with
    | true => exact .yes
    | false => exact .no
  | number hx =>
    intro depth
    obtain ⟨literal, hspelled, hwritten, rfl⟩ := hx.exists_literal
    rw [render, hwritten]
    exact .number hspelled
  | string ht => exact fun depth => .string ht.denotes
  | @array js hitems ih =>
    intro depth
    cases js with
    | nil => exact .emptyArray blanks_nil
    | cons j js =>
      have hbody := denotes_items hl (hl.gap depth) js j fun k hk => ih k hk (depth + 1)
      simp only [render, List.append_assoc]
      exact .array hbody
  | @object ms hnames hvalues ih =>
    intro depth
    cases ms with
    | nil => exact .emptyObject blanks_nil
    | cons m ms =>
      have hbody := denotes_members hl (hl.gap depth) ms m hnames fun k hk => ih k hk (depth + 1)
      simp only [render, List.append_assoc]
      exact .object hbody

/-! ## Documents -/

theorem isDocument_render {l : Layout} (hl : l.Blank) {j : Json} (h : j.Legible) :
    IsDocument (render l 0 j) j :=
  ⟨[], render l 0 j, [], blanks_nil, h.denotes hl 0, blanks_nil, by simp⟩

/-- What the printer writes for such a value is a document that describes it. -/
theorem parse?_render {l : Layout} (hl : l.Blank) {j : Json} (h : j.Legible) :
    parse? (render l 0 j) = some j :=
  (isDocument_render hl h).parse?_eq

end Retargeting.Json
