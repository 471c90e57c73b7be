import Retargeting.Proofs.Grammar

/- The reader takes nothing but documents. What each of its parts takes off the head of a
   text is, by the grammar, for the value that it gives, and the rest is the rest of the
   text; the parts that call one another are served by one induction on the bound of their
   calls. With the converse (`IsDocument.parse?_eq`) the reader takes exactly the documents,
   and no text is a document for two values (`parse?_eq_some_iff`). -/
namespace Retargeting.Json

/-- What a part of the reader gives when it only makes something of what another part gives. -/
theorem of_map_eq_some {α β : Type} {f : α → β} {taken : Option (α × List Char)} {b : β}
    {rest : List Char} (h : (taken.map fun (a, rest) => (f a, rest)) = some (b, rest)) :
    ∃ a, taken = some (a, rest) ∧ f a = b := by
  obtain ⟨⟨a, rest'⟩, htaken, heq⟩ := Option.map_eq_some_iff.mp h
  obtain ⟨rfl, rfl⟩ := Prod.mk.inj heq
  exact ⟨a, htaken, rfl⟩

/-! ## Numbers -/

theorem digits?_eq_append {s ds rest : List Char} (h : digits? s = some (ds, rest)) :
    ds ≠ [] ∧ (∀ c ∈ ds, c.isDigit = true) ∧ s = ds ++ rest := by
  unfold digits? at h
  split at h
  · cases h
  · next d digits htake =>
    obtain ⟨rfl, rfl⟩ := Prod.mk.inj (Option.some_inj.mp h)
    refine ⟨by simp, fun c hc => ?_, ?_⟩
    · rw [← htake] at hc
      exact List.all_eq_true.mp List.all_takeWhile c hc
    · rw [← htake, List.takeWhile_append_dropWhile]

theorem whole?_eq_append {s ds rest : List Char} (h : whole? s = some (ds, rest)) :
    IsWhole ds ∧ s = ds ++ rest := by
  obtain ⟨⟨ds', rest'⟩, hdigits, hlead⟩ := Option.bind_eq_some_iff.mp h
  obtain ⟨hne, hall, rfl⟩ := digits?_eq_append hdigits
  replace hlead : (if ds'.head? = some '0' ∧ ds' ≠ ['0'] then none else some (ds', rest')) =
    some (ds, rest) := hlead
  split at hlead
  · cases hlead
  · next hzero =>
    obtain ⟨rfl, rfl⟩ := Prod.mk.inj (Option.some_inj.mp hlead)
    have halone : ds'.head? = some '0' → ds' = ['0'] := fun hhead =>
      Decidable.byContradiction fun hmore => hzero ⟨hhead, hmore⟩
    exact ⟨⟨hne, hall, halone⟩, rfl⟩

theorem fraction?_eq_append {s ds rest : List Char} (h : fraction? s = some (ds, rest)) :
    (∀ c ∈ ds, c.isDigit = true) ∧ s = pointed ds ++ rest := by
  unfold fraction? at h
  split at h
  · obtain ⟨hne, hall, rfl⟩ := digits?_eq_append h
    exact ⟨hall, by simp [pointed, hne]⟩
  · obtain ⟨rfl, rfl⟩ := Prod.mk.inj (Option.some_inj.mp h)
    exact ⟨by simp, rfl⟩

theorem sign_eq_append {s sg rest : List Char} (h : sign s = (sg, rest)) :
    (sg = [] ∨ sg = ['+'] ∨ sg = ['-']) ∧ s = sg ++ rest := by
  unfold sign at h
  split at h
  all_goals
    obtain ⟨rfl, rfl⟩ := Prod.mk.inj h
    simp

theorem exponent?_eq_append {s cs rest : List Char} (h : exponent? s = some (cs, rest)) :
    IsExponent cs ∧ s = cs ++ rest := by
  unfold exponent? at h
  split at h
  · obtain ⟨rfl, rfl⟩ := Prod.mk.inj (Option.some_inj.mp h)
    exact ⟨.inl rfl, rfl⟩
  · next c tail =>
    split at h
    · next hmark =>
      cases hsign : sign tail with
      | mk sg after =>
        rw [hsign] at h
        obtain ⟨ds, hdigits, rfl⟩ := of_map_eq_some (f := fun ds => c :: (sg ++ ds)) h
        obtain ⟨hne, hall, rfl⟩ := digits?_eq_append hdigits
        obtain ⟨hsg, rfl⟩ := sign_eq_append hsign
        exact ⟨.inr ⟨c, sg, ds, hmark, hsg, hne, hall, rfl⟩, by simp⟩
    · obtain ⟨rfl, rfl⟩ := Prod.mk.inj (Option.some_inj.mp h)
      exact ⟨.inl rfl, rfl⟩

theorem unsigned?_eq_append {negative : Bool} {s rest : List Char} {x : Number}
    (h : unsigned? negative s = some (x, rest)) : ∃ l : Literal, l.Spelled ∧ l.number = x ∧
      l.negative = negative ∧ s = l.whole ++ (pointed l.fraction ++ (l.exponent ++ rest)) := by
  obtain ⟨⟨whole, s₁⟩, hwhole, h⟩ := Option.bind_eq_some_iff.mp h
  obtain ⟨⟨fraction, s₂⟩, hfraction, h⟩ := Option.bind_eq_some_iff.mp h
  obtain ⟨⟨exponent, s₃⟩, hexponent, h⟩ := Option.map_eq_some_iff.mp h
  obtain ⟨rfl, rfl⟩ := Prod.mk.inj h
  obtain ⟨lwhole, rfl⟩ := whole?_eq_append hwhole
  obtain ⟨lfraction, rfl⟩ := fraction?_eq_append hfraction
  obtain ⟨lexponent, rfl⟩ := exponent?_eq_append hexponent
  exact ⟨⟨negative, whole, fraction, exponent⟩, ⟨lwhole, lfraction, lexponent⟩, rfl, rfl, rfl⟩

theorem number?_eq_append {s rest : List Char} {x : Number} (h : number? s = some (x, rest)) :
    ∃ l : Literal, l.Spelled ∧ l.number = x ∧ s = l.written ++ rest := by
  unfold number? at h
  split at h
  all_goals
    obtain ⟨l, hl, hnumber, hsign, rfl⟩ := unsigned?_eq_append h
    exact ⟨l, hl, hnumber, by simp [Literal.written, minus, hsign, pointed]⟩

/-! ## Strings -/

theorem text?_eq_append {s rest : List Char} {t : Text} (h : text? s = some (t, rest)) :
    ∃ body, Text.Denotes body t ∧ s = body ++ '"' :: rest := by
  fun_induction text? s generalizing t rest with
  | case1 => cases h
  | case2 tail =>
    obtain ⟨rfl, rfl⟩ := Prod.mk.inj (Option.some_inj.mp h)
    exact ⟨[], .nil, rfl⟩
  | case3 a b c d tail ih =>
    obtain ⟨code, hcode, h⟩ := Option.bind_eq_some_iff.mp h
    obtain ⟨t', htail, rfl⟩ := of_map_eq_some h
    obtain ⟨body, hbody, rfl⟩ := ih htail
    exact ⟨_, .code hcode hbody, rfl⟩
  | case4 c tail _ ih =>
    obtain ⟨x, hx, h⟩ := Option.bind_eq_some_iff.mp h
    obtain ⟨t', htail, rfl⟩ := of_map_eq_some h
    obtain ⟨body, hbody, rfl⟩ := ih htail
    exact ⟨_, .escape hx hbody, rfl⟩
  | case5 => cases h
  | case6 c tail hquote _ hback hlow ih =>
    obtain ⟨t', htail, rfl⟩ := of_map_eq_some h
    obtain ⟨body, hbody, rfl⟩ := ih htail
    have hescape : c ≠ '\\' := by
      intro hc
      -- a backslash has a character behind it, if only the closing quote
      cases hnext : body ++ '"' :: rest with
      | nil => simp at hnext
      | cons x xs => exact hback x xs hc hnext
    exact ⟨_, .char hquote hescape hlow hbody, rfl⟩

/-! ## Blanks -/

theorem exists_blanks (s : List Char) : ∃ blanks, Blanks blanks ∧ s = blanks ++ skipBlanks s :=
  ⟨s.takeWhile isBlank, fun c hc => List.all_eq_true.mp List.all_takeWhile c hc,
    List.takeWhile_append_dropWhile.symm⟩

/-- A text that goes on with a character behind its blanks. -/
theorem exists_blanks_of_skipBlanks {s rest : List Char} {c : Char}
    (h : skipBlanks s = c :: rest) : ∃ blanks, Blanks blanks ∧ s = blanks ++ c :: rest := by
  rw [← h]
  exact exists_blanks s

theorem Blanks.append {a b : List Char} (ha : Blanks a) (hb : Blanks b) : Blanks (a ++ b) := by
  intro c hc
  exact (List.mem_append.mp hc).elim (ha c) (hb c)

/-- Blanks may stand in front of the items of a list. -/
theorem Denotes.items_blanks {blanks s : List Char} {js : List Json} (hblanks : Blanks blanks)
    (h : Denotes s (.items js)) : Denotes (blanks ++ s) (.items js) := by
  cases h with
  | lastItem hbefore hs hafter =>
    rw [← List.append_assoc]
    exact .lastItem (hblanks.append hbefore) hs hafter
  | item hbefore hs hafter hrest =>
    rw [← List.append_assoc]
    exact .item (hblanks.append hbefore) hs hafter hrest

theorem Denotes.members_blanks {blanks s : List Char} {ms : List (Text × Json)}
    (hblanks : Blanks blanks) (h : Denotes s (.members ms)) :
    Denotes (blanks ++ s) (.members ms) := by
  cases h with
  | lastMember hbefore ht hgap hgap' hs hafter =>
    rw [← List.append_assoc]
    exact .lastMember (hblanks.append hbefore) ht hgap hgap' hs hafter
  | member hbefore ht hgap hgap' hs hafter hrest =>
    rw [← List.append_assoc]
    exact .member (hblanks.append hbefore) ht hgap hgap' hs hafter hrest

/-! ## Values -/

/-- What the reader takes under this bound on its calls. -/
structure TakesPhrases (n : Nat) : Prop where
  value : ∀ {s j rest}, value? n s = some (j, rest) →
    ∃ text, Denotes text (.value j) ∧ s = text ++ rest
  items : ∀ {s js rest}, items? n s = some (js, rest) →
    ∃ text, Denotes text (.items js) ∧ s = text ++ rest
  members : ∀ {s ms rest}, members? n s = some (ms, rest) →
    ∃ text, Denotes text (.members ms) ∧ s = text ++ rest

section Step
variable {n : Nat} (ih : TakesPhrases n)
include ih

/-- Blanks that are skipped in front of the items belong to them. -/
theorem TakesPhrases.items_skipBlanks {s rest : List Char} {js : List Json}
    (h : items? n (skipBlanks s) = some (js, rest)) :
    ∃ text, Denotes text (.items js) ∧ s = text ++ rest := by
  obtain ⟨blanks, hblanks, hs⟩ := exists_blanks s
  obtain ⟨text, htext, hskip⟩ := ih.items h
  exact ⟨blanks ++ text, htext.items_blanks hblanks, by rw [List.append_assoc, ← hskip, ← hs]⟩

theorem TakesPhrases.members_skipBlanks {s rest : List Char} {ms : List (Text × Json)}
    (h : members? n (skipBlanks s) = some (ms, rest)) :
    ∃ text, Denotes text (.members ms) ∧ s = text ++ rest := by
  obtain ⟨blanks, hblanks, hs⟩ := exists_blanks s
  obtain ⟨text, htext, hskip⟩ := ih.members h
  exact ⟨blanks ++ text, htext.members_blanks hblanks, by rw [List.append_assoc, ← hskip, ← hs]⟩

theorem value?_eq_append {s rest : List Char} {j : Json}
    (h : value? (n + 1) s = some (j, rest)) :
    ∃ text, Denotes text (.value j) ∧ s = text ++ rest := by
  unfold value? at h
  split at h
  -- the three words
  · obtain ⟨rfl, rfl⟩ := Prod.mk.inj (Option.some_inj.mp h)
    exact ⟨_, .null, rfl⟩
  · obtain ⟨rfl, rfl⟩ := Prod.mk.inj (Option.some_inj.mp h)
    exact ⟨_, .yes, rfl⟩
  · obtain ⟨rfl, rfl⟩ := Prod.mk.inj (Option.some_inj.mp h)
    exact ⟨_, .no, rfl⟩
  -- a string
  · obtain ⟨t, ht, rfl⟩ := of_map_eq_some h
    obtain ⟨body, hbody, rfl⟩ := text?_eq_append ht
    exact ⟨_, .string hbody, by simp⟩
  -- a list, empty or not
  · next tail =>
    split at h
    · next hclose =>
      obtain ⟨rfl, rfl⟩ := Prod.mk.inj (Option.some_inj.mp h)
      obtain ⟨gap, hgap, rfl⟩ := exists_blanks_of_skipBlanks hclose
      exact ⟨_, .emptyArray hgap, by simp⟩
    · obtain ⟨js, hitems, rfl⟩ := of_map_eq_some h
      obtain ⟨text, htext, rfl⟩ := ih.items_skipBlanks hitems
      exact ⟨_, .array htext, rfl⟩
  -- an object, empty or not
  · next tail =>
    split at h
    · next hclose =>
      obtain ⟨rfl, rfl⟩ := Prod.mk.inj (Option.some_inj.mp h)
      obtain ⟨gap, hgap, rfl⟩ := exists_blanks_of_skipBlanks hclose
      exact ⟨_, .emptyObject hgap, by simp⟩
    · obtain ⟨ms, hmembers, rfl⟩ := of_map_eq_some h
      obtain ⟨text, htext, rfl⟩ := ih.members_skipBlanks hmembers
      exact ⟨_, .object htext, rfl⟩
  -- a number
  · obtain ⟨x, hx, rfl⟩ := of_map_eq_some h
    obtain ⟨l, hl, rfl, rfl⟩ := number?_eq_append hx
    exact ⟨_, .number hl, rfl⟩

theorem items?_eq_append {s rest : List Char} {js : List Json}
    (h : items? (n + 1) s = some (js, rest)) :
    ∃ text, Denotes text (.items js) ∧ s = text ++ rest := by
  unfold items? at h
  obtain ⟨⟨j, tail⟩, hj, hnext⟩ := Option.bind_eq_some_iff.mp h
  obtain ⟨text, htext, rfl⟩ := ih.value hj
  simp only at hnext
  split at hnext
  · next tail' hcomma =>
    obtain ⟨js', hitems, rfl⟩ := of_map_eq_some hnext
    obtain ⟨after, hafter, rfl⟩ := exists_blanks_of_skipBlanks hcomma
    obtain ⟨more, hmore, rfl⟩ := ih.items_skipBlanks hitems
    exact ⟨_, .item blanks_nil htext hafter hmore, by simp⟩
  · next hclose =>
    obtain ⟨rfl, rfl⟩ := Prod.mk.inj (Option.some_inj.mp hnext)
    obtain ⟨after, hafter, rfl⟩ := exists_blanks_of_skipBlanks hclose
    exact ⟨_, .lastItem blanks_nil htext hafter, by simp⟩
  · cases hnext

theorem members?_eq_append {s rest : List Char} {ms : List (Text × Json)}
    (h : members? (n + 1) s = some (ms, rest)) :
    ∃ text, Denotes text (.members ms) ∧ s = text ++ rest := by
  unfold members? at h
  split at h
  · next tail =>
    obtain ⟨⟨t, behind⟩, ht, hcolon⟩ := Option.bind_eq_some_iff.mp h
    obtain ⟨name, hname, rfl⟩ := text?_eq_append ht
    simp only at hcolon
    split at hcolon
    · next inner hgap =>
      obtain ⟨⟨j, tail⟩, hj, hnext⟩ := Option.bind_eq_some_iff.mp hcolon
      obtain ⟨gap, hblank, rfl⟩ := exists_blanks_of_skipBlanks hgap
      obtain ⟨gap', hblank', hinner⟩ := exists_blanks inner
      obtain ⟨text, htext, hskip⟩ := ih.value hj
      rw [hinner, hskip]
      simp only at hnext
      split at hnext
      · next tail' hcomma =>
        obtain ⟨ms', hmembers, rfl⟩ := of_map_eq_some hnext
        obtain ⟨after, hafter, rfl⟩ := exists_blanks_of_skipBlanks hcomma
        obtain ⟨more, hmore, rfl⟩ := ih.members_skipBlanks hmembers
        exact ⟨_, .member blanks_nil hname hblank hblank' htext hafter hmore, by simp [named]⟩
      · next hclose =>
        obtain ⟨rfl, rfl⟩ := Prod.mk.inj (Option.some_inj.mp hnext)
        obtain ⟨after, hafter, rfl⟩ := exists_blanks_of_skipBlanks hclose
        exact ⟨_, .lastMember blanks_nil hname hblank hblank' htext hafter, by simp [named]⟩
      · cases hnext
    · cases hcolon
  · cases h

end Step

theorem takesPhrases (n : Nat) : TakesPhrases n := by
  induction n with
  | zero => exact ⟨nofun, nofun, nofun⟩
  | succ n ih => exact ⟨value?_eq_append ih, items?_eq_append ih, members?_eq_append ih⟩

/-! ## Documents -/

/-- The reader takes exactly the documents, each as the value that it is for. -/
theorem parse?_eq_some_iff (s : List Char) (j : Json) : parse? s = some j ↔ IsDocument s j := by
  refine ⟨fun h => ?_, IsDocument.parse?_eq⟩
  obtain ⟨⟨k, after⟩, hvalue, hend⟩ := Option.bind_eq_some_iff.mp h
  obtain ⟨text, htext, hskip⟩ := (takesPhrases _).value hvalue
  obtain ⟨before, hbefore, hs⟩ := exists_blanks s
  obtain ⟨blanks, hblanks, hafter⟩ := exists_blanks after
  replace hend : (if skipBlanks after = [] then some k else none) = some j := hend
  split at hend
  · next hnil =>
    obtain rfl := Option.some_inj.mp hend
    rw [hnil, List.append_nil] at hafter
    subst hafter
    exact ⟨before, text, after, hbefore, htext, hblanks, by rw [hs, hskip]⟩
  · cases hend

/-- No text is a document for two values. -/
theorem IsDocument.unique {s : List Char} {j k : Json} (hj : IsDocument s j)
    (hk : IsDocument s k) : j = k :=
  Option.some_inj.mp (hj.parse?_eq.symm.trans hk.parse?_eq)

end Retargeting.Json
