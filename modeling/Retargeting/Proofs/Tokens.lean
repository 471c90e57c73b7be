import Retargeting.Json.Real
import Retargeting.Proofs.HexDigits

/- The tokens of a JSON text, written and read. A number ends where no part of a number
   can go on, so it is read off the head of a text that goes on with one of the
   characters that may follow a value (`Delimited`); a string ends with its quote,
   whatever comes then. So numbers and strings are read as what their texts are for
   (`Literal.number?_written`, `Text.Denotes`). What is written for a value is a text for
   it as long as the value is one that reading can give: a real number must be spelled as
   numbers are and must not spell an integer, and half of a surrogate pair must stand
   alone. Integers of any size, and all strings of characters, are such values. -/
namespace Retargeting.Json

/-! ## What follows a value -/

/-- Whether a character may stand right behind a value. -/
def isDelimiter (c : Char) : Bool := isBlank c || c = ',' || c = ']' || c = '\x7d'

/-- A text that may stand right behind a value. -/
def Delimited (s : List Char) : Prop := ∀ c ∈ s.head?, isDelimiter c = true

/-- A text that does not go on with a digit. -/
def NoDigit (s : List Char) : Prop := ∀ c ∈ s.head?, c.isDigit = false

theorem noPart_of_isDelimiter {c : Char} (h : isDelimiter c = true) :
    c.isDigit = false ∧ c ≠ '.' ∧ c ≠ 'e' ∧ c ≠ 'E' := by
  simp only [isDelimiter, isBlank, Bool.or_eq_true, decide_eq_true_eq] at h
  obtain (((((rfl | rfl) | rfl) | rfl) | rfl) | rfl) | rfl := h
  all_goals decide

theorem Delimited.noDigit {s : List Char} (h : Delimited s) : NoDigit s :=
  fun c hc => (noPart_of_isDelimiter (h c hc)).1

/-! ## Numbers -/

/-- A number has digits in front of its point, and no zero in front of other digits. -/
def IsWhole (ds : List Char) : Prop :=
  ds ≠ [] ∧ (∀ c ∈ ds, c.isDigit = true) ∧ (ds.head? = some '0' → ds = ['0'])

/-- An exponent, if there is one, has a mark, at most one sign, and digits. -/
def IsExponent (cs : List Char) : Prop :=
  cs = [] ∨ ∃ mark sg ds, (mark = 'e' ∨ mark = 'E') ∧ (sg = [] ∨ sg = ['+'] ∨ sg = ['-']) ∧
    ds ≠ [] ∧ (∀ c ∈ ds, c.isDigit = true) ∧ cs = mark :: (sg ++ ds)

/-- A literal that is spelled as numbers are. -/
structure Literal.Spelled (l : Literal) : Prop where
  whole : IsWhole l.whole
  fraction : ∀ c ∈ l.fraction, c.isDigit = true
  exponent : IsExponent l.exponent

/-- The number that a literal spells. -/
def Literal.number (l : Literal) : Number :=
  Number.ofParts l.negative l.whole l.fraction l.exponent

/-- A number that reading can give: an integer, or a spelling of what is none. -/
def Number.Legible : Number → Prop
  | .integer _ => True
  | .real l => l.Spelled ∧ l.number = .real l

theorem digits?_append {ds rest : List Char} (hne : ds ≠ [])
    (hdigits : ∀ c ∈ ds, c.isDigit = true) (hrest : NoDigit rest) :
    digits? (ds ++ rest) = some (ds, rest) := by
  have htake : rest.takeWhile Char.isDigit = [] := by
    cases rest with
    | nil => rfl
    | cons c rest => simp [hrest c (by simp)]
  have hdrop : rest.dropWhile Char.isDigit = rest := by
    cases rest with
    | nil => rfl
    | cons c rest => simp [hrest c (by simp)]
  rw [digits?, List.takeWhile_append_of_pos hdigits, List.dropWhile_append_of_pos hdigits, htake,
    hdrop, List.append_nil]
  cases ds with
  | nil => exact absurd rfl hne
  | cons c ds => rfl

theorem whole?_append {ds rest : List Char} (h : IsWhole ds) (hrest : NoDigit rest) :
    whole? (ds ++ rest) = some (ds, rest) := by
  obtain ⟨hne, hdigits, hzero⟩ := h
  rw [whole?, digits?_append hne hdigits hrest, Option.bind_some]
  apply if_neg
  intro hlead
  exact hlead.2 (hzero hlead.1)

/-- The digits behind the point, with the point, if there are any. -/
def pointed (fraction : List Char) : List Char := if fraction = [] then [] else '.' :: fraction

theorem fraction?_append {ds rest : List Char} (hdigits : ∀ c ∈ ds, c.isDigit = true)
    (hrest : NoDigit rest) (hpoint : rest.head? ≠ some '.') :
    fraction? (pointed ds ++ rest) = some (ds, rest) := by
  by_cases hne : ds = []
  · subst hne
    cases rest with
    | nil => rfl
    | cons c rest =>
      have hc : c ≠ '.' := by simpa using hpoint
      simp [pointed, fraction?, hc]
  · simp [pointed, hne, fraction?, digits?_append hne hdigits hrest]

theorem sign_append {sg ds rest : List Char} (hsg : sg = [] ∨ sg = ['+'] ∨ sg = ['-'])
    (hne : ds ≠ []) (hdigits : ∀ c ∈ ds, c.isDigit = true) :
    sign (sg ++ ds ++ rest) = (sg, ds ++ rest) := by
  obtain rfl | rfl | rfl := hsg
  · cases ds with
    | nil => exact absurd rfl hne
    | cons d ds =>
      have hd := hdigits d List.mem_cons_self
      have hplus : d ≠ '+' := by intro h; simp [h] at hd
      have hminus : d ≠ '-' := by intro h; simp [h] at hd
      simp [sign, hplus, hminus]
  · rfl
  · rfl

theorem exponent?_append {cs rest : List Char} (h : IsExponent cs) (hrest : NoDigit rest)
    (hmark : rest.head? ≠ some 'e' ∧ rest.head? ≠ some 'E') :
    exponent? (cs ++ rest) = some (cs, rest) := by
  obtain rfl | ⟨mark, sg, ds, hm, hsg, hne, hdigits, rfl⟩ := h
  · cases rest with
    | nil => rfl
    | cons c rest =>
      have hc : ¬(c = 'e' ∨ c = 'E') := by simpa using hmark
      simp [exponent?, hc]
  · rw [List.cons_append, exponent?, if_pos hm, sign_append hsg hne hdigits]
    simp [digits?_append hne hdigits hrest]

theorem NoDigit.cons_append {c : Char} (h : c.isDigit = false) (s rest : List Char) :
    NoDigit (c :: s ++ rest) := by
  simpa [NoDigit] using h

/-- Behind the point and the exponent of a literal, or behind nothing, no digit goes on. -/
theorem noDigit_exponent {cs rest : List Char} (h : IsExponent cs) (hrest : NoDigit rest) :
    NoDigit (cs ++ rest) ∧ (rest.head? ≠ some '.' → (cs ++ rest).head? ≠ some '.') := by
  obtain rfl | ⟨mark, sg, ds, hm, _, _, _, rfl⟩ := h
  · exact ⟨hrest, id⟩
  · obtain rfl | rfl := hm
    · exact ⟨NoDigit.cons_append (by decide) _ _, fun _ => by simp⟩
    · exact ⟨NoDigit.cons_append (by decide) _ _, fun _ => by simp⟩

theorem noDigit_pointed {ds rest : List Char} (hrest : NoDigit rest) :
    NoDigit (pointed ds ++ rest) := by
  unfold pointed
  split
  · exact hrest
  · exact NoDigit.cons_append (by decide) _ _

/-- A literal without its sign is read off a text that may go on behind it. -/
theorem unsigned?_append {l : Literal} (h : l.Spelled) (negative : Bool) {rest : List Char}
    (hrest : Delimited rest) :
    unsigned? negative (l.whole ++ (pointed l.fraction ++ (l.exponent ++ rest))) =
      some (Number.ofParts negative l.whole l.fraction l.exponent, rest) := by
  have hno : ∀ c, isDelimiter c = false → rest.head? ≠ some c := by
    intro c hc hhead
    simp [hrest c hhead] at hc
  obtain ⟨hexponent, hpoint⟩ := noDigit_exponent h.exponent hrest.noDigit
  have hmark := And.intro (hno 'e' (by decide)) (hno 'E' (by decide))
  simp only [unsigned?, whole?_append h.whole (noDigit_pointed hexponent), Option.bind_some,
    fraction?_append h.fraction hexponent (hpoint (hno '.' (by decide))),
    exponent?_append h.exponent hrest.noDigit hmark, Option.map_some]

theorem IsWhole.eq_cons {ds : List Char} (h : IsWhole ds) :
    ∃ d rest, ds = d :: rest ∧ d.isDigit = true := by
  obtain ⟨hne, hdigits, _⟩ := h
  cases ds with
  | nil => exact absurd rfl hne
  | cons d rest => exact ⟨d, rest, rfl, hdigits d List.mem_cons_self⟩

theorem Literal.number?_written {l : Literal} (h : l.Spelled) {rest : List Char}
    (hrest : Delimited rest) : number? (l.written ++ rest) = some (l.number, rest) := by
  have hread := unsigned?_append h l.negative hrest
  obtain ⟨d, ds, hwhole, hd⟩ := h.whole.eq_cons
  have hminus : d ≠ '-' := by intro hd'; simp [hd'] at hd
  have hwritten : l.written ++ rest
      = minus l.negative ++ (l.whole ++ (pointed l.fraction ++ (l.exponent ++ rest))) := by
    simp [Literal.written, pointed]
  rw [hwritten]
  rw [Literal.number, ← hread]
  cases l.negative with
  | true => rfl
  | false =>
    rw [hwhole]
    simp [minus, number?, hminus]

/-- A number begins with its minus sign or a digit, so with no other character. -/
theorem Literal.Spelled.written_eq_cons {l : Literal} (h : l.Spelled) :
    ∃ c cs, l.written = c :: cs ∧ ∀ y, y.isDigit = false → y ≠ '-' → c ≠ y := by
  obtain ⟨d, ds, hwhole, hd⟩ := h.whole.eq_cons
  rw [Literal.written]
  cases l.negative with
  | true => exact ⟨'-', _, rfl, fun y _ hy => hy.symm⟩
  | false =>
    rw [hwhole]
    refine ⟨d, _, rfl, fun y hy _ heq => ?_⟩
    rw [heq, hy] at hd
    exact Bool.false_ne_true hd

/-! ## Integers -/

/-- No zero stands in front of the digits of a number. -/
theorem head?_toDigits_ne {n : Nat} (h : 0 < n) : (Nat.toDigits 10 n).head? ≠ some '0' := by
  induction n using Nat.strongRecOn with
  | ind n ih =>
    rw [Nat.toDigits_eq_if (by decide)]
    split
    · simp; omega
    · rw [List.head?_append, Option.or_of_isSome]
      · exact ih (n / 10) (by omega) (by omega)
      · simp [Nat.toDigits_ne_nil]

theorem isWhole_toDigits (n : Nat) : IsWhole (Nat.toDigits 10 n) := by
  refine ⟨Nat.toDigits_ne_nil, fun c hc => ?_, fun hzero => ?_⟩
  · exact Nat.isDigit_of_mem_toDigits (by decide) (by decide) hc
  · rcases Nat.eq_zero_or_pos n with rfl | hpos
    · exact Nat.toDigits_zero 10
    · exact absurd hzero (head?_toDigits_ne hpos)

theorem spelled_ofInt (n : Int) : (Literal.ofInt n).Spelled where
  whole := isWhole_toDigits n.natAbs
  fraction := by simp [Literal.ofInt]
  exponent := Or.inl rfl

theorem number_ofInt (n : Int) : (Literal.ofInt n).number = .integer n := by
  have hnat : Nat.ofDigitChars 10 (Nat.toDigits 10 n.natAbs) 0 = n.natAbs :=
    Nat.ofDigitChars_ten_toDigits
  have hsigned : (if n < 0 then -(n.natAbs : Int) else n.natAbs) = n := by
    split <;> omega
  simp only [Literal.number, Number.ofParts, Literal.ofInt, hnat, decide_eq_true_eq, hsigned]
  apply if_pos
  refine ⟨trivial, trivial, ?_⟩
  omega

theorem written_ofInt (n : Int) : (Literal.ofInt n).written = integerDigits n := by
  simp only [integerDigits, Literal.written, Literal.ofInt, minus, decide_eq_true_eq]
  split <;> simp

/-- A number that reading can give is written as a literal is. -/
theorem Number.Legible.exists_literal {x : Number} (h : x.Legible) :
    ∃ l : Literal, l.Spelled ∧ x.written = l.written ∧ l.number = x := by
  cases x with
  | integer n => exact ⟨.ofInt n, spelled_ofInt n, (written_ofInt n).symm, number_ofInt n⟩
  | real l => exact ⟨l, h.1, rfl, h.2⟩

/-! ## Strings -/

/-- A text between quotes, and the string that it is for: a character stands for itself or
    behind a backslash, and the code of a character, or of half a pair, behind `u`. -/
inductive Text.Denotes : List Char → Text → Prop
  | nil : Denotes [] []
  | char {c : Char} {s : List Char} {t : Text} (hquote : c ≠ '"') (hback : c ≠ '\\')
      (hlow : ¬c < ' ') (h : Denotes s t) : Denotes (c :: s) (.char c :: t)
  | escape {c x : Char} {s : List Char} {t : Text} (hx : unescaped? c = some x)
      (h : Denotes s t) : Denotes ('\\' :: c :: s) (.char x :: t)
  | code {a b c d : Char} {code : UInt16} {s : List Char} {t : Text}
      (hcode : code? a b c d = some code) (h : Denotes s t) :
      Denotes ('\\' :: 'u' :: a :: b :: c :: d :: s) (Text.consCode code t)

/-- A string is read off a text, whatever stands behind its closing quote. -/
theorem Text.Denotes.text?_append {s : List Char} {t : Text} (h : Denotes s t)
    (rest : List Char) : text? (s ++ '"' :: rest) = some (t, rest) := by
  induction h with
  | nil => simp [text?]
  | char hquote hback hlow _ ih =>
    rw [List.cons_append, text?]
    · rw [if_neg hlow, ih]
      rfl
    -- neither the end nor an escape begins with this character
    all_goals simp_all
  | escape hx _ ih =>
    have hu : ∀ c x, unescaped? c = some x → c ≠ 'u' := by
      rintro c x hx rfl
      cases hx
    rw [List.cons_append, List.cons_append, text?]
    · rw [hx, Option.bind_some, ih]
      rfl
    · exact fun _ _ _ _ _ h => absurd h (hu _ _ hx)
  | code hcode _ ih =>
    simp only [List.cons_append, text?, hcode, Option.bind_some, ih, Option.map_some]

/-- A string that reading can give: each half of a surrogate pair in it stands alone. -/
def Text.Legible : Text → Prop
  | [] => True
  | .char _ :: t => Text.Legible t
  | .half code :: t => Text.consCode code t = .half code :: t ∧ Text.Legible t

theorem Text.legible_ofChars (cs : List Char) : Text.Legible (Text.ofChars cs) := by
  induction cs with
  | nil => exact trivial
  | cons c cs ih => exact ih

section Written
variable {s : List Char} {t : Text}

/-- The four digits of a code are for that code. -/
theorem Text.Denotes.padded {n : Nat} (hn : n < 0x10000) (h : Denotes s t) :
    Denotes ('\\' :: 'u' :: (Hex.padded 4 n ++ s)) (Text.consCode (UInt16.ofNat n) t) := by
  have hdigits : Hex.padded 4 n = [Nat.digitChar (n / 16 / 16 / 16),
      Nat.digitChar (n / 16 / 16 % 16), Nat.digitChar (n / 16 % 16), Nat.digitChar (n % 16)] := by
    rw [Hex.padded_succ (by decide), Hex.padded_succ (by decide), Hex.padded_succ (by decide),
      Hex.padded_one (by omega)]
    rfl
  have hcode : code? (Nat.digitChar (n / 16 / 16 / 16)) (Nat.digitChar (n / 16 / 16 % 16))
      (Nat.digitChar (n / 16 % 16)) (Nat.digitChar (n % 16)) = some (UInt16.ofNat n) := by
    have hvalue : ((n / 16 / 16 / 16 * 16 + n / 16 / 16 % 16) * 16 + n / 16 % 16) * 16 + n % 16
        = n := by omega
    simp only [code?, Hex.digit?_digitChar (Nat.mod_lt _ (by decide : 16 > 0)),
      Hex.digit?_digitChar (show n / 16 / 16 / 16 < 16 by omega), Option.bind_some,
      Option.map_some, hvalue]
  rw [hdigits]
  exact .code hcode h

/-- The code of a character below the blank is that character. -/
theorem consCode_of_lt {c : Char} (h : c < ' ') (t : Text) :
    Text.consCode (UInt16.ofNat c.toNat) t = .char c :: t := by
  have hlt : c.toNat < 32 := h
  have hcode : (UInt16.ofNat c.toNat).toNat = c.toNat :=
    UInt16.toNat_ofNat_of_lt' (Nat.lt_trans hlt (by decide))
  have hlead : isLeading (UInt16.ofNat c.toNat) = false := by
    simp [isLeading, UInt16.le_iff_toNat_le, hcode]; omega
  have htrail : isTrailing (UInt16.ofNat c.toNat) = false := by
    simp [isTrailing, UInt16.le_iff_toNat_le, hcode]; omega
  simp [Text.consCode, hlead, htrail, hcode]

/-- A character is written as its escape, or as itself. -/
theorem Text.Denotes.escaped (c : Char) (h : Denotes s t) :
    Denotes (Json.escaped c ++ s) (.char c :: t) := by
  unfold Json.escaped
  -- the seven short escapes
  iterate 7
    split
    · next hc =>
      subst hc
      exact .escape (by decide) h
  split
  · next hlow =>
    have hcode : c.toNat < 0x10000 := Nat.lt_trans (show c.toNat < 32 from hlow) (by decide)
    rw [← consCode_of_lt hlow]
    exact .padded hcode h
  · next hquote hback _ _ _ _ _ hlow => exact .char hquote hback hlow h

/-- What is written between quotes is for the string. -/
theorem Text.Legible.denotes (h : t.Legible) : Denotes (t.flatMap Letter.written) t := by
  induction t with
  | nil => exact .nil
  | cons letter t ih =>
    rw [List.flatMap_cons]
    cases letter with
    | char c => exact .escaped c (ih h)
    | half code =>
      obtain ⟨halone, ht⟩ := h
      have hcode := Denotes.padded code.toNat_lt (ih ht)
      rw [UInt16.ofNat_toNat, halone] at hcode
      exact hcode

end Written

end Retargeting.Json
