import Retargeting.Proofs.Tokens

/- The texts of JSON, and that they are read. What text is for what value is said by the
   rules of the grammar alone (`Denotes`), with blanks between any two tokens. A list is a
   bracket and its items up to the end, so the rules speak of three kinds of phrases, and
   one induction over them serves all three: wherever the phrase stands in a text, the
   reader takes it off the head and leaves the rest (`Denotes.reads`), with a bound on its
   calls of twice the length of the phrase. -/
namespace Retargeting.Json

/-! ## Blanks -/

def Blanks (s : List Char) : Prop := ∀ c ∈ s, isBlank c = true

theorem blanks_nil : Blanks [] := List.forall_mem_nil _

theorem skipBlanks_cons {c : Char} (h : isBlank c = false) (s : List Char) :
    skipBlanks (c :: s) = c :: s := by
  simp [skipBlanks, h]

theorem Blanks.skipBlanks_append {blanks : List Char} (h : Blanks blanks) (s : List Char) :
    skipBlanks (blanks ++ s) = skipBlanks s :=
  List.dropWhile_append_of_pos h

theorem Delimited.cons {c : Char} (h : isDelimiter c = true) (s : List Char) :
    Delimited (c :: s) := by
  simpa [Delimited] using h

theorem Delimited.append {blanks s : List Char} (h : Blanks blanks) (hs : Delimited s) :
    Delimited (blanks ++ s) := by
  cases blanks with
  | nil => exact hs
  | cons c blanks => exact Delimited.cons (by simp [isDelimiter, h c List.mem_cons_self]) _

/-! ## The grammar -/

/-- What a stretch of a text can be for: a value, or the items of a list or the members of an
    object up to its end. -/
inductive Phrase where
  | value (j : Json)
  | items (js : List Json)
  | members (ms : List (Text × Json))

/-- A member without the blanks around it: its name, and its value behind the colon. -/
def named (name gap gap' value : List Char) : List Char :=
  '"' :: (name ++ '"' :: (gap ++ ':' :: (gap' ++ value)))

/-- The texts for values, and for what is left of lists and objects. -/
inductive Denotes : List Char → Phrase → Prop
  | null : Denotes ['n', 'u', 'l', 'l'] (.value .null)
  | yes : Denotes ['t', 'r', 'u', 'e'] (.value (.bool true))
  | no : Denotes ['f', 'a', 'l', 's', 'e'] (.value (.bool false))
  | number {l : Literal} (hl : l.Spelled) : Denotes l.written (.value (.number l.number))
  | string {s : List Char} {t : Text} (ht : Text.Denotes s t) :
      Denotes ('"' :: (s ++ ['"'])) (.value (.string t))
  | emptyArray {gap : List Char} (hgap : Blanks gap) :
      Denotes ('[' :: (gap ++ [']'])) (.value (.array []))
  | array {s : List Char} {js : List Json} (h : Denotes s (.items js)) :
      Denotes ('[' :: s) (.value (.array js))
  | emptyObject {gap : List Char} (hgap : Blanks gap) :
      Denotes ('\x7b' :: (gap ++ ['\x7d'])) (.value (.object []))
  | object {s : List Char} {ms : List (Text × Json)} (h : Denotes s (.members ms)) :
      Denotes ('\x7b' :: s) (.value (.object ms))
  | lastItem {before s after : List Char} {j : Json} (hbefore : Blanks before)
      (h : Denotes s (.value j)) (hafter : Blanks after) :
      Denotes (before ++ (s ++ (after ++ [']']))) (.items [j])
  | item {before s after rest : List Char} {j : Json} {js : List Json} (hbefore : Blanks before)
      (h : Denotes s (.value j)) (hafter : Blanks after) (hrest : Denotes rest (.items js)) :
      Denotes (before ++ (s ++ (after ++ ',' :: rest))) (.items (j :: js))
  | lastMember {before name gap gap' s after : List Char} {t : Text} {j : Json}
      (hbefore : Blanks before) (ht : Text.Denotes name t) (hgap : Blanks gap) (hgap' : Blanks gap')
      (h : Denotes s (.value j)) (hafter : Blanks after) :
      Denotes (before ++ (named name gap gap' s ++ (after ++ ['\x7d']))) (.members [(t, j)])
  | member {before name gap gap' s after rest : List Char} {t : Text} {j : Json}
      {ms : List (Text × Json)}
      (hbefore : Blanks before) (ht : Text.Denotes name t) (hgap : Blanks gap) (hgap' : Blanks gap')
      (h : Denotes s (.value j)) (hafter : Blanks after) (hrest : Denotes rest (.members ms)) :
      Denotes (before ++ (named name gap gap' s ++ (after ++ ',' :: rest)))
        (.members ((t, j) :: ms))

/-! ## What a phrase begins with -/

theorem named_append (name gap gap' value rest : List Char) :
    named name gap gap' value ++ rest = named name gap gap' (value ++ rest) := by
  simp [named]

/-- A value begins with a character of its own, which closes no list. -/
theorem Denotes.value_eq_cons {s : List Char} {j : Json} (h : Denotes s (.value j)) :
    ∃ c cs, s = c :: cs ∧ isBlank c = false ∧ c ≠ ']' := by
  cases h with
  | null => exact ⟨'n', _, rfl, by decide, by decide⟩
  | yes => exact ⟨'t', _, rfl, by decide, by decide⟩
  | no => exact ⟨'f', _, rfl, by decide, by decide⟩
  | number hl =>
    obtain ⟨c, cs, hwritten, hne⟩ := hl.written_eq_cons
    exact ⟨c, cs, hwritten, by simp [isBlank, hne], by simp [hne]⟩
  | string ht => exact ⟨'"', _, rfl, by decide, by decide⟩
  | emptyArray _ | array _ => exact ⟨'[', _, rfl, by decide, by decide⟩
  | emptyObject _ | object _ => exact ⟨'\x7b', _, rfl, by decide, by decide⟩

/-- The blanks in front of a value are skipped, and no more. -/
theorem Denotes.skipBlanks_append {s : List Char} {j : Json} (h : Denotes s (.value j))
    {blanks : List Char} (hblanks : Blanks blanks) (rest : List Char) :
    skipBlanks (blanks ++ (s ++ rest)) = s ++ rest := by
  obtain ⟨c, cs, rfl, hc, _⟩ := h.value_eq_cons
  rw [hblanks.skipBlanks_append]
  exact skipBlanks_cons hc _

/-! ## Reading -/

/-- What the reader makes of a stretch of text, wherever it stands: what the stretch is for,
    under a bound of two calls for each of its characters. -/
def Phrase.Reads (s : List Char) : Phrase → Prop
  | .value j => ∀ n rest, 2 * s.length ≤ n → Delimited rest →
      value? n (s ++ rest) = some (j, rest)
  | .items js => ∀ n rest, 2 * s.length ≤ n →
      items? n (skipBlanks (s ++ rest)) = some (js, rest)
  | .members ms => ∀ n rest, 2 * s.length ≤ n →
      members? n (skipBlanks (s ++ rest)) = some (ms, rest)

/-- A stretch with a character in it leaves the reader a call. -/
theorem reads_value_of_succ {s : List Char} {j : Json} (hs : s ≠ [])
    (h : ∀ n rest, 2 * s.length ≤ n + 1 → Delimited rest →
      value? (n + 1) (s ++ rest) = some (j, rest)) : Phrase.Reads s (.value j) := by
  intro n rest hn hrest
  have hpos := List.length_pos_iff.mpr hs
  obtain ⟨n, rfl⟩ : ∃ m, n = m + 1 := ⟨n - 1, by omega⟩
  exact h n rest hn hrest

section Steps
variable {s : List Char} {n : Nat}

theorem value?_number {l : Literal} (hl : l.Spelled) {rest : List Char} (hrest : Delimited rest) :
    value? (n + 1) (l.written ++ rest) = some (.number l.number, rest) := by
  have hread := l.number?_written hl hrest
  obtain ⟨c, cs, hwritten, hne⟩ := hl.written_eq_cons
  rw [hwritten] at hread ⊢
  rw [List.cons_append, value?]
  · rw [← List.cons_append, hread]
    rfl
  -- no other kind of value begins with this character
  all_goals simp [hne]

/-- A list whose end does not come first has items. -/
theorem value?_items (hopen : ∀ rest, skipBlanks s ≠ ']' :: rest) :
    value? (n + 1) ('[' :: s) =
      (items? n (skipBlanks s)).map fun (js, rest) => (.array js, rest) := by
  rw [value?]
  split
  case h_1 rest hclosed => exact absurd hclosed (hopen rest)
  case h_2 => rfl

/-- An object whose end does not come first has members. -/
theorem value?_members (hopen : ∀ rest, skipBlanks s ≠ '\x7d' :: rest) :
    value? (n + 1) ('\x7b' :: s) =
      (members? n (skipBlanks s)).map fun (ms, rest) => (.object ms, rest) := by
  rw [value?]
  split
  case h_1 rest hclosed => exact absurd hclosed (hopen rest)
  case h_2 => rfl

/-- One item is read; what stands behind the blanks after it decides whether another
    follows. -/
theorem items?_append {before s after rest : List Char} {j : Json} (hbefore : Blanks before)
    (h : Denotes s (.value j)) (hread : Phrase.Reads s (.value j)) (hafter : Blanks after)
    (hn : 2 * s.length ≤ n) (hrest : Delimited rest) :
    items? (n + 1) (skipBlanks (before ++ (s ++ (after ++ rest)))) =
      match skipBlanks rest with
      | ',' :: rest => (items? n (skipBlanks rest)).map fun (js, rest) => (j :: js, rest)
      | ']' :: rest => some ([j], rest)
      | _ => none := by
  have hvalue := hread n (after ++ rest) hn (.append hafter hrest)
  rw [← hafter.skipBlanks_append rest, h.skipBlanks_append hbefore, items?]
  exact congrArg (Option.bind · _) hvalue

/-- One member is read, likewise. -/
theorem members?_append {before name gap gap' s after rest : List Char} {t : Text} {j : Json}
    (hbefore : Blanks before) (ht : Text.Denotes name t) (hgap : Blanks gap) (hgap' : Blanks gap')
    (h : Denotes s (.value j)) (hread : Phrase.Reads s (.value j)) (hafter : Blanks after)
    (hn : 2 * s.length ≤ n) (hrest : Delimited rest) :
    members? (n + 1) (skipBlanks (before ++ (named name gap gap' s ++ (after ++ rest)))) =
      match skipBlanks rest with
      | ',' :: rest => (members? n (skipBlanks rest)).map fun (ms, rest) => ((t, j) :: ms, rest)
      | '\x7d' :: rest => some ([(t, j)], rest)
      | _ => none := by
  have hvalue := hread n (after ++ rest) hn (.append hafter hrest)
  have hgaps := h.skipBlanks_append hgap' (after ++ rest)
  rw [← hafter.skipBlanks_append rest, hbefore.skipBlanks_append, named_append, named,
    skipBlanks_cons (by decide), members?, ht.text?_append, Option.bind_some]
  simp only [hgap.skipBlanks_append, skipBlanks_cons (show isBlank ':' = false by decide), hgaps]
  exact congrArg (Option.bind · _) hvalue

end Steps

/-- The items of a list do not begin with its end. -/
theorem Denotes.items_open {s : List Char} {js : List Json} (h : Denotes s (.items js))
    (rest : List Char) : ∀ tail, skipBlanks (s ++ rest) ≠ ']' :: tail := by
  cases h with
  | lastItem hbefore h _ | item hbefore h _ _ =>
    obtain ⟨c, cs, hs, _, hc⟩ := h.value_eq_cons
    simp only [List.append_assoc]
    rw [h.skipBlanks_append hbefore, hs]
    simp [hc]

theorem Denotes.members_open {s : List Char} {ms : List (Text × Json)} (h : Denotes s (.members ms))
    (rest : List Char) : ∀ tail, skipBlanks (s ++ rest) ≠ '\x7d' :: tail := by
  cases h with
  | lastMember hbefore _ _ _ _ _ | member hbefore _ _ _ _ _ _ =>
    simp only [List.append_assoc]
    rw [hbefore.skipBlanks_append, named_append, named, skipBlanks_cons (by decide)]
    simp

/-- Every phrase is read as what it is for. -/
theorem Denotes.reads {s : List Char} {phrase : Phrase} (h : Denotes s phrase) :
    phrase.Reads s := by
  induction h with
  | null | yes | no => exact reads_value_of_succ (by simp) (by simp [value?])
  | number hl =>
    obtain ⟨c, cs, hwritten, _⟩ := hl.written_eq_cons
    exact reads_value_of_succ (by simp [hwritten]) fun n rest _ hrest => value?_number hl hrest
  | string ht =>
    refine reads_value_of_succ (by simp) fun n rest _ _ => ?_
    simp [value?, ht.text?_append]
  | emptyArray hgap =>
    refine reads_value_of_succ (by simp) fun n rest _ _ => ?_
    simp [value?, hgap.skipBlanks_append, skipBlanks_cons, isBlank]
  | array h ih =>
    refine reads_value_of_succ (by simp) fun n rest hn _ => ?_
    simp only [List.length_cons] at hn
    rw [List.cons_append, value?_items (h.items_open rest), ih n rest (by omega)]
    rfl
  | emptyObject hgap =>
    refine reads_value_of_succ (by simp) fun n rest _ _ => ?_
    simp [value?, hgap.skipBlanks_append, skipBlanks_cons, isBlank]
  | object h ih =>
    refine reads_value_of_succ (by simp) fun n rest hn _ => ?_
    simp only [List.length_cons] at hn
    rw [List.cons_append, value?_members (h.members_open rest), ih n rest (by omega)]
    rfl
  | lastItem hbefore h hafter ih =>
    intro n rest hn
    simp only [List.length_append, List.length_cons] at hn
    obtain ⟨n, rfl⟩ : ∃ m, n = m + 1 := ⟨n - 1, by omega⟩
    simp only [List.append_assoc, List.cons_append, List.nil_append]
    rw [items?_append hbefore h ih hafter (by omega) (.cons (by decide) _),
      skipBlanks_cons (by decide)]
    rfl
  | item hbefore h hafter _ ih ihrest =>
    intro n rest hn
    -- the calls for the comma pay for the step to the next item
    simp only [List.length_append, List.length_cons] at hn
    obtain ⟨n, rfl⟩ : ∃ m, n = m + 1 := ⟨n - 1, by omega⟩
    simp only [List.append_assoc, List.cons_append]
    rw [items?_append hbefore h ih hafter (by omega) (.cons (by decide) _),
      skipBlanks_cons (by decide)]
    simp only [ihrest n rest (by omega), Option.map_some]
  | lastMember hbefore ht hgap hgap' h hafter ih =>
    intro n rest hn
    simp only [named, List.length_append, List.length_cons] at hn
    obtain ⟨n, rfl⟩ : ∃ m, n = m + 1 := ⟨n - 1, by omega⟩
    simp only [List.append_assoc, List.cons_append, List.nil_append]
    rw [members?_append hbefore ht hgap hgap' h ih hafter (by omega) (.cons (by decide) _),
      skipBlanks_cons (by decide)]
    rfl
  | member hbefore ht hgap hgap' h hafter _ ih ihrest =>
    intro n rest hn
    simp only [named, List.length_append, List.length_cons] at hn
    obtain ⟨n, rfl⟩ : ∃ m, n = m + 1 := ⟨n - 1, by omega⟩
    simp only [List.append_assoc, List.cons_append]
    rw [members?_append hbefore ht hgap hgap' h ih hafter (by omega) (.cons (by decide) _),
      skipBlanks_cons (by decide)]
    simp only [ihrest n rest (by omega), Option.map_some]

/-! ## Documents -/

/-- The texts for a value that stands alone, between blanks. -/
def IsDocument (s : List Char) (j : Json) : Prop :=
  ∃ before text after, Blanks before ∧ Denotes text (.value j) ∧ Blanks after ∧
    s = before ++ (text ++ after)

/-- A document is read as the value that it is for. -/
theorem IsDocument.parse?_eq {s : List Char} {j : Json} (h : IsDocument s j) :
    parse? s = some j := by
  obtain ⟨before, text, after, hbefore, htext, hafter, rfl⟩ := h
  have hend : Delimited after := by
    rw [← List.append_nil after]
    exact .append hafter (by simp [Delimited])
  have hskip : skipBlanks after = [] := by
    rw [← List.append_nil after, hafter.skipBlanks_append]
    rfl
  rw [parse?, htext.skipBlanks_append hbefore, htext.reads _ _ (by simp; omega) hend,
    Option.bind_some]
  exact if_pos hskip

end Retargeting.Json
