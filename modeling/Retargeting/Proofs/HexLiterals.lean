import Mathlib.Data.Nat.Digits.Lemmas
import Retargeting.Proofs.ScheduleDocuments

/- What texts a document may hold for the limit. A numeral is made of digits of either case
   and underscores that are not first; in front of it stand at most one mark and then at
   most one plus sign (`Denotes`). The reader of literals takes exactly these texts and
   gives the number to the base sixteen that the digits spell (`literal?_eq_some_iff`). All
   that a numeral says is in its digits from the first one on that is not zero, in lower
   case: they are the digits of its value (`significant_eq`), so two numerals are one number
   just when they agree there. A schedule is read from a document just when its text for the
   limit is one of these. -/
namespace Retargeting

namespace Hex

/-! ## Numerals -/

/-- The digits in the order of their values. -/
def alphabet : List Char :=
  ['0', '1', '2', '3', '4', '5', '6', '7', '8', '9', 'a', 'b', 'c', 'd', 'e', 'f']

/-- Digits of either case and underscores, and no underscore first. -/
structure IsNumeral (s : List Char) : Prop where
  ne_nil : s ≠ []
  head?_ne : s.head? ≠ some '_'
  mem : ∀ c ∈ s, c = '_' ∨ c.toLower ∈ alphabet

/-- The digits of a numeral, in lower case. -/
def plain (s : List Char) : List Char := (s.filter (· ≠ '_')).map Char.toLower

/-- The number that the digits spell to the base sixteen, the highest one first. -/
def value (s : List Char) : Nat := Nat.ofDigits 16 ((plain s).map alphabet.idxOf).reverse

/-- The digits from the first one on that is not zero. -/
def significant (s : List Char) : List Char := (plain s).dropWhile (· = '0')

/-- What may stand in front of a numeral: at most one mark, and then at most one plus sign. -/
def fronts : List (List Char) := [[], ['+'], ['0', 'x'], ['0', 'x', '+']]

/-- A text for a number: a numeral for it behind one of the fronts. -/
def Denotes (s : List Char) (n : Nat) : Prop :=
  ∃ front ∈ fronts, ∃ body, IsNumeral body ∧ s = front ++ body ∧ value body = n

/-! ## Reading digits -/

theorem toLower_of_ge {c : Char} (h : 128 ≤ c.toNat) : c.toLower = c := by
  apply dif_neg
  rintro ⟨_, hupper⟩
  have hle : c.toNat ≤ 90 := hupper
  omega

/-- A digit of either case is read as its place in the alphabet. -/
theorem digit?_eq (c : Char) : digit? c =
    if c.toLower ∈ alphabet then some (alphabet.idxOf c.toLower) else none := by
  have hlow : ∀ n < 128, digit? (Char.ofNat n) =
      if (Char.ofNat n).toLower ∈ alphabet then some (alphabet.idxOf (Char.ofNat n).toLower)
      else none := by decide +kernel
  rcases Nat.lt_or_ge c.toNat 128 with hlt | hge
  · simpa using hlow c.toNat hlt
  · -- beyond the first 128 characters none is a digit
    have hdigits : ∀ x : Char, x.toNat < 128 → ¬c ≤ x := by
      intro x hx hle
      have hle : c.toNat ≤ x.toNat := hle
      omega
    have hmem : c ∉ alphabet := by
      intro hc
      have hall : ∀ x ∈ alphabet, x.toNat < 128 := by simp [alphabet]
      have hlt := hall c hc
      omega
    rw [toLower_of_ge hge, if_neg hmem]
    simp [digit?, hdigits]

/-- The number that digits spell is gathered from the first one on. -/
theorem ofDigits_reverse (ds : List Nat) :
    Nat.ofDigits 16 ds.reverse = ds.foldl (fun n d => 16 * n + d) 0 := by
  rw [Nat.ofDigits_eq_foldr, List.foldr_reverse]
  congr 1
  funext n d
  simp [Nat.add_comm]

/-- The characters are read one by one, and each must be a digit or an underscore. -/
theorem spelled?_eq_some_iff (s : List Char) (acc n : Nat) : spelled? acc s = some n ↔
    (∀ c ∈ s, c = '_' ∨ c.toLower ∈ alphabet) ∧
      ((plain s).map alphabet.idxOf).foldl (fun n d => 16 * n + d) acc = n := by
  induction s generalizing acc with
  | nil => simp [spelled?, plain]
  | cons c s ih =>
    rw [spelled?, List.forall_mem_cons]
    split
    case isTrue hunder =>
      subst hunder
      rw [ih]
      simp [plain]
    case isFalse hunder =>
      rw [digit?_eq]
      split
      case isTrue hdigit =>
        rw [Option.bind_some, ih]
        simp [plain, hunder, hdigit]
      case isFalse hdigit => simp [hunder, hdigit]

theorem unsigned?_eq_some_iff (s : List Char) (n : Nat) :
    unsigned? s = some n ↔ IsNumeral s ∧ value s = n := by
  unfold unsigned?
  split
  · exact iff_of_false (by simp) fun h => h.1.ne_nil rfl
  · exact iff_of_false (by simp) fun h => h.1.head?_ne rfl
  · next hnil hunder =>
    have hhead : s.head? ≠ some '_' := by
      intro h
      obtain ⟨rest, rfl⟩ := List.head?_eq_some_iff.mp h
      exact hunder rest rfl
    rw [spelled?_eq_some_iff, value, ofDigits_reverse]
    exact and_congr_left fun _ => ⟨fun hmem => ⟨hnil, hhead, hmem⟩, IsNumeral.mem⟩

/-! ## Reading behind the fronts -/

/-- A text is what the reader leaves of it behind one of the fronts. -/
theorem exists_front (s : List Char) :
    ∃ front ∈ fronts, s = front ++ dropPlus (dropMark s) := by
  unfold dropMark
  split
  case h_1 rest =>
    unfold dropPlus
    split
    · exact ⟨['0', 'x', '+'], by simp [fronts], rfl⟩
    · exact ⟨['0', 'x'], by simp [fronts], rfl⟩
  case h_2 =>
    unfold dropPlus
    split
    · exact ⟨['+'], by simp [fronts], rfl⟩
    · exact ⟨[], by simp [fronts], rfl⟩

theorem IsNumeral.dropPlus_eq {s : List Char} (h : IsNumeral s) : dropPlus s = s := by
  rw [dropPlus]
  rintro rest rfl
  exact absurd (h.mem '+' List.mem_cons_self) (by decide)

theorem IsNumeral.dropMark_eq {s : List Char} (h : IsNumeral s) : dropMark s = s := by
  rw [dropMark]
  rintro rest rfl
  exact absurd (h.mem 'x' (by simp)) (by decide)

/-- In front of a numeral the reader takes off the whole front. -/
theorem IsNumeral.drop_append {body : List Char} (h : IsNumeral body) {front : List Char}
    (hfront : front ∈ fronts) : dropPlus (dropMark (front ++ body)) = body := by
  simp only [fronts, List.mem_cons, List.not_mem_nil, or_false] at hfront
  obtain rfl | rfl | rfl | rfl := hfront
  · rw [List.nil_append, h.dropMark_eq, h.dropPlus_eq]
  · rfl
  · exact h.dropPlus_eq
  · rfl

/-- The reader takes the texts for numbers and no others. -/
theorem literal?_eq_some_iff (s : List Char) (n : Nat) : literal? s = some n ↔ Denotes s n := by
  rw [literal?, unsigned?_eq_some_iff]
  constructor
  · rintro ⟨hbody, hvalue⟩
    obtain ⟨front, hfront, hs⟩ := exists_front s
    exact ⟨front, hfront, _, hbody, hs, hvalue⟩
  · rintro ⟨front, hfront, body, hbody, rfl, hvalue⟩
    rw [hbody.drop_append hfront]
    exact ⟨hbody, hvalue⟩

/-- The fewest digits of a number are a text for it. -/
theorem denotes_digits (n : Nat) : Denotes (digits n) n := by
  obtain ⟨hbody, hvalue⟩ := (unsigned?_eq_some_iff _ _).mp (unsigned?_digits n)
  exact ⟨[], by simp [fronts], digits n, hbody, rfl, hvalue⟩

/-! ## Significant digits -/

section Significant
variable {s t : List Char}

/-- Zeros in front count for nothing. -/
theorem value_eq_significant (s : List Char) :
    value s = Nat.ofDigits 16 ((significant s).map alphabet.idxOf).reverse := by
  rw [value, significant, ofDigits_reverse, ofDigits_reverse]
  induction plain s with
  | nil => rfl
  | cons c cs ih =>
    by_cases hc : c = '0'
    · subst hc
      rw [List.dropWhile_cons_of_pos (by simp), ← ih]
      rfl
    · rw [List.dropWhile_cons_of_neg (by simpa using hc)]

theorem IsNumeral.mem_of_mem_significant (h : IsNumeral s) {c : Char}
    (hc : c ∈ significant s) : c ∈ alphabet := by
  have hplain : c ∈ plain s := (List.dropWhile_sublist _).subset hc
  obtain ⟨x, hx, rfl⟩ := List.mem_map.mp hplain
  obtain ⟨hx, hne⟩ := List.mem_filter.mp hx
  exact (h.mem x hx).resolve_left (by simpa using hne)

/-- The significant digits of a numeral stand for the digits of its value. -/
theorem IsNumeral.digits_value (h : IsNumeral s) :
    Nat.digits 16 (value s) = ((significant s).map alphabet.idxOf).reverse := by
  rw [value_eq_significant]
  apply Nat.digits_ofDigits 16 (by decide)
  · intro d hd
    obtain ⟨c, hc, rfl⟩ := List.mem_map.mp (List.mem_reverse.mp hd)
    exact List.idxOf_lt_length_iff.mpr (h.mem_of_mem_significant hc)
  · intro hne hzero
    rw [List.getLast_reverse, List.head_map] at hzero
    have hhead := (List.idxOf_eq_zero_iff_head_eq (by simp [alphabet])).mp hzero
    have hnot := List.head_dropWhile_not (· = '0') (by simpa [significant] using hne)
    exact of_decide_eq_false hnot hhead.symm

/-- The significant digits of a numeral are the digits of its value. -/
theorem IsNumeral.significant_eq (h : IsNumeral s) : (significant s).map some =
    (Nat.digits 16 (value s)).reverse.map fun d => alphabet[d]? := by
  rw [h.digits_value, List.reverse_reverse, List.map_map]
  apply List.map_congr_left
  intro c hc
  exact (List.getElem?_idxOf (h.mem_of_mem_significant hc)).symm

/-- Two numerals are for one number just when they agree in their significant digits. -/
theorem IsNumeral.value_eq_iff (hs : IsNumeral s) (ht : IsNumeral t) :
    value s = value t ↔ significant s = significant t := by
  constructor
  · intro hvalue
    apply List.map_injective_iff.mpr (Option.some_injective Char)
    rw [hs.significant_eq, ht.significant_eq, hvalue]
  · intro hdigits
    rw [value_eq_significant, value_eq_significant, hdigits]

end Significant

end Hex

/-! ## The limit -/

namespace Schedule

open Json

theorem limit_read_ofChars (cs : List Char) (n : Nat) :
    limitField.read (ofChars cs) = .ok n ↔ Hex.Denotes cs n := by
  rw [← Hex.literal?_eq_some_iff]
  cases h : Hex.literal? cs <;> simp [limitField, hexNumber, chars_ofChars, Except.bind, h]

/-- The limit is read from strings that are texts for numbers, and from nothing else. -/
theorem limit_read_eq_ok_iff (j : Json) (n : Nat) :
    limitField.read j = .ok n ↔ ∃ cs, j = ofChars cs ∧ Hex.Denotes cs n := by
  constructor
  · intro h
    cases hj : chars j with
    | error fault => simp [limitField, hexNumber, hj, Except.bind] at h
    | ok cs =>
      obtain rfl := (chars_eq_ok_iff j cs).mp hj
      exact ⟨cs, rfl, (limit_read_ofChars cs n).mp h⟩
  · rintro ⟨cs, rfl, hcs⟩
    exact (limit_read_ofChars cs n).mpr hcs

/-- Behind whatever fronts, two numerals are read as one limit just when they agree in their
    significant digits. -/
theorem limit_read_eq_iff {front front' body body' : List Char} (hfront : front ∈ Hex.fronts)
    (hfront' : front' ∈ Hex.fronts) (hbody : Hex.IsNumeral body) (hbody' : Hex.IsNumeral body') :
    limitField.read (ofChars (front ++ body)) = limitField.read (ofChars (front' ++ body')) ↔
      Hex.significant body = Hex.significant body' := by
  have hread := (limit_read_ofChars _ _).mpr ⟨front, hfront, body, hbody, rfl, rfl⟩
  have hread' := (limit_read_ofChars _ _).mpr ⟨front', hfront', body', hbody', rfl, rfl⟩
  rw [hread, hread', Except.ok.injEq]
  exact hbody.value_eq_iff hbody'

/-- A value with this text for the limit is a schedule when the text is one for a number. -/
theorem ofJson_eq_ok_iff (s t : Schedule) {cs : List Char} {j : Json} (h : j.Holds slots
      (entriesOf (ofWord s.timespan) (ofWord s.interval) (ofChars cs) (.bool s.stallRelief))) :
    ofJson j = .ok t ↔ ∃ n, Hex.Denotes cs n ∧ t = { s with limit := n } := by
  have hread : ∀ n, Hex.Denotes cs n → ofJson j = .ok { s with limit := n } := by
    intro n hn
    obtain ⟨htimespan, hinterval, _, hrelief⟩ := s.reads
    exact ofJson_of_holds { s with limit := n } h htimespan hinterval
      ((limit_read_ofChars cs n).mpr hn) hrelief
  constructor
  · intro ht
    obtain ⟨n, hn⟩ := limit_read_of_ofJson h ht
    have hn := (limit_read_ofChars cs n).mp hn
    refine ⟨n, hn, ?_⟩
    exact Except.ok.inj (ht.symm.trans (hread n hn))
  · rintro ⟨n, hn, rfl⟩
    exact hread n hn

/-- The limit may be given by every text for a number, and by no other. Whatever the rest of
    the document, as long as it gives the schedule's other fields, it is read when its text
    for the limit is one for a number, and then as the schedule with that number. Neither the
    front of a text nor the case of its digits, its underscores or the zeros in front of it
    count; and a number is read back from its digits, marked or bare. -/
theorem limit_texts {document : String} {j : Json} (hdocument : IsDocument document.toList j)
    (s : Schedule) {cs : List Char} (h : j.Holds slots
      (entriesOf (ofWord s.timespan) (ofWord s.interval) (ofChars cs) (.bool s.stallRelief))) :
    (∀ t, read document = .ok t ↔ ∃ n, Hex.Denotes cs n ∧ t = { s with limit := n }) ∧
    (∀ k n, limitField.read k = .ok n ↔ ∃ text, k = ofChars text ∧ Hex.Denotes text n) ∧
    (∀ front ∈ Hex.fronts, ∀ front' ∈ Hex.fronts, ∀ body body',
      Hex.IsNumeral body → Hex.IsNumeral body' →
        (limitField.read (ofChars (front ++ body)) = limitField.read (ofChars (front' ++ body')) ↔
          Hex.significant body = Hex.significant body')) ∧
    ∀ n, limitField.read (ofHexNumber n) = .ok n ∧
      limitField.read (ofChars (Hex.digits n)) = .ok n := by
  refine ⟨fun t => ?_, limit_read_eq_ok_iff, fun front hfront front' hfront' body body' hbody
    hbody' => limit_read_eq_iff hfront hfront' hbody hbody', fun n => ⟨?_, ?_⟩⟩
  · rw [← ofJson_eq_ok_iff s t h, read, decode, hdocument.parse?_eq]
    cases hj : ofJson j <;> simp [Except.mapError, hj]
  · exact hexNumber_ofHexNumber n
  · exact (limit_read_ofChars _ _).mpr (Hex.denotes_digits n)

/-- A limit behind both the mark and the sign, with an underscore and digits of either case. -/
theorem limit_texts_marked_and_signed :
    read ("\x7b\"interval\":2016,\"note\":[-7],\"target_timespan\":1209600," ++
      "\"max_target\":\"0x+0fF_\",\"allow_min_difficulty_blocks\":true\x7d") =
        .ok ⟨1209600, 2016, 255, true⟩ := by
  let s : Schedule := ⟨1209600, 2016, 1, true⟩
  let j : Json := .object (members [("interval", ofWord s.interval), ("note", .array [ofInt (-7)]),
    ("target_timespan", ofWord s.timespan), ("max_target", ofChars "0x+0fF_".toList),
    ("allow_min_difficulty_blocks", .bool s.stallRelief)])
  have hlimit : Hex.Denotes "0x+0fF_".toList 255 :=
    (Hex.literal?_eq_some_iff _ _).mp (by decide)
  have hholds : j.Holds slots (entriesOf (ofWord s.timespan) (ofWord s.interval)
      (ofChars "0x+0fF_".toList) (.bool s.stallRelief)) := .members (.swap _ _ _)
  have hlegible : j.Legible := by
    apply legible_members
    simp only [List.forall_mem_cons]
    refine ⟨.number trivial, .array ?_, .number trivial, .string (Text.legible_ofChars _),
      .bool _, by simp⟩
    simp only [List.forall_mem_cons]
    exact ⟨.number trivial, by simp⟩
  have hread : read (String.ofList j.compact) = .ok ⟨1209600, 2016, 255, true⟩ := by
    refine ((limit_texts ?_ s hholds).1 _).mpr ⟨255, hlimit, rfl⟩
    rw [String.toList_ofList]
    exact isDocument_render Layout.blank_compact hlegible
  refine (congrArg read ?_).trans hread
  decide +kernel

end Schedule

end Retargeting
