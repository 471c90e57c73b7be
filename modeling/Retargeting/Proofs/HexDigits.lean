import Retargeting.Hex

/- Hexadecimal digits, written and read. The digits of a number come off its end
   (`Nat.toDigits_eq_if`), and reading appends them there (`spelled?_append`), so the
   reader gets back the number that was written, of any length (`spelled?_digits`). No
   digit is a sign or an underscore, so what is read behind the mark is what was written
   there (`literal?_marked`). -/
namespace Retargeting.Hex

/-! ## Digits -/

theorem digit?_digitChar {d : Nat} (h : d < 16) : digit? (Nat.digitChar d) = some d := by
  have hall : ∀ d < 16, digit? (Nat.digitChar d) = some d := by decide
  exact hall d h

/-- The digits of a number are digits of numbers below sixteen. -/
theorem eq_digitChar_of_mem {n : Nat} {c : Char} (h : c ∈ digits n) :
    ∃ d < 16, c = Nat.digitChar d := by
  induction n using Nat.strongRecOn with
  | ind n ih =>
    rw [digits, Nat.toDigits_eq_if (by decide)] at h
    split at h
    · next hlt => exact ⟨n, hlt, by simpa using h⟩
    · next hge =>
      rcases List.mem_append.mp h with hinit | hlast
      · exact ih (n / 16) (by omega) hinit
      · exact ⟨n % 16, Nat.mod_lt _ (by decide), by simpa using hlast⟩

/-- A character that is no digit does not occur. -/
theorem ne_of_mem_digits {n : Nat} {c x : Char} (h : c ∈ digits n)
    (hx : ∀ d < 16, Nat.digitChar d ≠ x) : c ≠ x := by
  obtain ⟨d, hd, rfl⟩ := eq_digitChar_of_mem h
  exact hx d hd

theorem digits_eq_cons (n : Nat) : ∃ c cs, digits n = c :: cs := by
  cases h : digits n with
  | nil => exact absurd h Nat.toDigits_ne_nil
  | cons c cs => exact ⟨c, cs, rfl⟩

/-! ## Reading -/

theorem spelled?_append (acc : Nat) (s t : List Char) :
    spelled? acc (s ++ t) = (spelled? acc s).bind fun m => spelled? m t := by
  induction s generalizing acc with
  | nil => rfl
  | cons c s ih =>
    simp only [List.cons_append, spelled?]
    split
    · exact ih acc
    · cases digit? c with
      | none => rfl
      | some d => exact ih (16 * acc + d)

theorem spelled?_digitChar (acc : Nat) {d : Nat} (h : d < 16) :
    spelled? acc [Nat.digitChar d] = some (16 * acc + d) := by
  have hne : Nat.digitChar d ≠ '_' := Nat.digitChar_ne '_' (by decide)
  simp [spelled?, hne, digit?_digitChar h]

/-- The digits of a number spell it. -/
theorem spelled?_digits (n : Nat) : spelled? 0 (digits n) = some n := by
  induction n using Nat.strongRecOn with
  | ind n ih =>
    rw [digits, Nat.toDigits_eq_if (by decide)]
    split
    · next hlt => simpa using spelled?_digitChar 0 hlt
    · next hge =>
      have hprefix : spelled? 0 (Nat.toDigits 16 (n / 16)) = some (n / 16) := ih _ (by omega)
      rw [spelled?_append, hprefix, Option.bind_some,
        spelled?_digitChar _ (Nat.mod_lt _ (by decide)), Nat.div_add_mod]

theorem unsigned?_digits (n : Nat) : unsigned? (digits n) = some n := by
  have hread := spelled?_digits n
  obtain ⟨c, cs, hdigits⟩ := digits_eq_cons n
  have hc : c ≠ '_' := ne_of_mem_digits (n := n) (by simp [hdigits]) (by decide)
  rw [hdigits] at hread ⊢
  rw [unsigned?]
  · exact hread
  · simp
  · simpa using hc

theorem dropPlus_digits (n : Nat) : dropPlus (digits n) = digits n := by
  obtain ⟨c, cs, hdigits⟩ := digits_eq_cons n
  have hc : c ≠ '+' := ne_of_mem_digits (n := n) (by simp [hdigits]) (by decide)
  rw [hdigits, dropPlus]
  simpa using hc

/-- The digits of a number behind the mark are the number. -/
theorem literal?_marked (n : Nat) : literal? ('0' :: 'x' :: digits n) = some n := by
  rw [literal?, dropMark, dropPlus_digits, unsigned?_digits]

/-! ## A fixed width -/

theorem padded_one {n : Nat} (h : n < 16) : padded 1 n = [Nat.digitChar n] := by
  simp [padded, digits, Nat.toDigits_of_lt_base h]

/-- The last digit of a padded number comes off as that of the number itself. -/
theorem padded_succ {width : Nat} (hw : 0 < width) (n : Nat) :
    padded (width + 1) n = padded width (n / 16) ++ [Nat.digitChar (n % 16)] := by
  simp only [padded, digits]
  rw [Nat.toDigits_eq_if (b := 16) (n := n) (by decide)]
  split
  · next hlt =>
    rw [Nat.div_eq_of_lt hlt, Nat.mod_eq_of_lt hlt, Nat.toDigits_zero]
    obtain ⟨w, rfl⟩ : ∃ w, width = w + 1 := ⟨width - 1, by omega⟩
    simp [List.replicate_succ']
  · simp

end Retargeting.Hex
