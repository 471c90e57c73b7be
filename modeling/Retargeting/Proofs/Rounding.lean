import Mathlib.Algebra.Order.Ring.Nat
import Retargeting.Proofs.Encoding

/- Encoding as rounding. The numbers that words stand for are those with three
   significant bytes: each is its own truncation to its own length (`truncate_target`),
   whatever word it was read off. Truncating every number to its own length keeps the
   order (`truncate_byteSize_mono`): within one length because division does, and from
   one length to the next because the lowest number of a length is kept in full. From
   these two facts follow the normal form of words (`canonical_iff`, `canonical_words`)
   and the rounding of numbers (`encoding_floors_in_order`): a word is the one that
   encoding writes just when its mantissa fills its length, and the encoding of a number
   is the word for the greatest number below it that has one. -/
namespace Retargeting.Compact

/-! ## Numbers of three significant bytes -/

theorem target_lt_of_size_pos {c : Compact} (h : 0 < c.size) :
    c.target < 2 ^ (8 * c.size - 1) := by
  rw [target_eq]
  apply Nat.div_lt_of_lt_mul
  calc c.mantissa * 2 ^ (8 * (c.size - 3))
      < 2 ^ 23 * 2 ^ (8 * (c.size - 3)) :=
        Nat.mul_lt_mul_of_pos_right c.mantissa_lt (Nat.two_pow_pos _)
    _ = 2 ^ (8 * (3 - c.size)) * 2 ^ (8 * c.size - 1) := by
        rw [← Nat.pow_add, ← Nat.pow_add]; congr 1; omega

/-- A number has no more bytes than the word counts that it was read off. -/
theorem byteSize_target_le {c : Compact} (h : 0 < c.size) : byteSize c.target ≤ c.size :=
  (byteSize_le_iff _ h).mpr (target_lt_of_size_pos h)

theorem byteSize_target_le_max (c : Compact) : byteSize c.target ≤ max 3 c.size := by
  rcases Nat.eq_zero_or_pos c.size with hz | hp
  · have hm := c.mantissa_lt
    have hzero : c.target = 0 := by
      rw [target_eq, hz]
      exact Nat.div_eq_of_lt (by omega)
    rw [hzero]
    simp [byteSize, bitLength]
  · exact Nat.le_trans (byteSize_target_le hp) (Nat.le_max_right _ _)

/-- What a word stands for has three significant bytes. -/
theorem truncate_target (c : Compact) : truncate (byteSize c.target) c.target = c.target := by
  have hbytes := byteSize_target_le_max c
  apply Nat.div_mul_cancel
  rcases Nat.le_total c.size 3 with hs | hs
  · rw [show 8 * (byteSize c.target - 3) = 0 by omega]
    exact Nat.one_dvd _
  · have hunit : c.mantissa * 2 ^ (8 * (c.size - 3)) = c.target := by
      rw [target_eq, Nat.sub_eq_zero_of_le hs]; simp
    calc 2 ^ (8 * (byteSize c.target - 3))
        ∣ 2 ^ (8 * (c.size - 3)) := Nat.pow_dvd_pow 2 (by omega)
      _ ∣ c.mantissa * 2 ^ (8 * (c.size - 3)) := Nat.dvd_mul_left _ _
      _ = c.target := hunit

/-- Encoding keeps what a word stands for. -/
theorem target_ofTarget_target (c : Compact) : (ofTarget c.target).target = c.target := by
  rw [target_ofTarget c.target_lt, truncate_target]

/-! ## The normal form of words -/

/-- From two bytes on, the leading digits of a number fill more than two of their three bytes
    but for a sign bit. -/
theorem le_leading {t : Nat} (h : 1 < byteSize t) : 0x8000 ≤ leading t := by
  have hk : 0 < byteSize t - 1 := by omega
  have hlow : 2 ^ (8 * (byteSize t - 1) - 1) ≤ t := (lt_byteSize_iff t hk).mp (by omega)
  rw [leading_eq, Nat.le_div_iff_mul_le (Nat.two_pow_pos _)]
  calc 2 ^ 15 * 2 ^ (8 * (byteSize t - 3))
      = 2 ^ (8 * (byteSize t - 1) - 1) * 2 ^ (8 * (3 - byteSize t)) := by
        rw [← Nat.pow_add, ← Nat.pow_add]; congr 1; omega
    _ ≤ t * 2 ^ (8 * (3 - byteSize t)) := Nat.mul_le_mul_right _ hlow

/-- A number of fewer than three bytes leaves the other leading bytes empty. -/
theorem dvd_leading (t : Nat) : 2 ^ (8 * (3 - byteSize t)) ∣ leading t := by
  rw [leading_eq]
  rcases Nat.le_total (byteSize t) 3 with hk | hk
  · rw [Nat.sub_eq_zero_of_le hk]; simp
  · rw [Nat.sub_eq_zero_of_le hk]; simp

/-- A mantissa that fills the length of its word makes the number as long as that. -/
theorem byteSize_target_of_full {c : Compact} (hpos : 0 < c.size)
    (hfull : 1 < c.size → 0x8000 ≤ c.mantissa) : byteSize c.target = c.size := by
  apply Nat.le_antisymm (byteSize_target_le hpos)
  rcases Nat.lt_or_ge 1 c.size with hlong | hshort
  · have hk : 0 < c.size - 1 := by omega
    have hhigh : 2 ^ (8 * (c.size - 1) - 1) ≤ c.target := by
      rw [target_eq, Nat.le_div_iff_mul_le (Nat.two_pow_pos _)]
      calc 2 ^ (8 * (c.size - 1) - 1) * 2 ^ (8 * (3 - c.size))
          = 2 ^ 15 * 2 ^ (8 * (c.size - 3)) := by
            rw [← Nat.pow_add, ← Nat.pow_add]; congr 1; omega
        _ ≤ c.mantissa * 2 ^ (8 * (c.size - 3)) := Nat.mul_le_mul_right _ (hfull hlong)
    have hlonger := (lt_byteSize_iff _ hk).mpr hhigh
    omega
  · have := byteSize_pos c.target
    omega

/-- Of a word that is as long as its number, encoding gives back the mantissa. -/
theorem leading_target {c : Compact} (hsize : byteSize c.target = c.size)
    (hdvd : 2 ^ (8 * (3 - c.size)) ∣ c.mantissa) : leading c.target = c.mantissa := by
  rw [leading_eq, hsize, target_eq]
  rcases Nat.le_total c.size 3 with hs | hs
  · rw [Nat.sub_eq_zero_of_le hs]
    simp [Nat.div_mul_cancel hdvd]
  · rw [Nat.sub_eq_zero_of_le hs]
    simp

/-- A word is told by its sign, its length and its mantissa. -/
theorem eq_of_fields {c d : Compact} (hsign : c.sign = d.sign) (hsize : c.size = d.size)
    (hmantissa : c.mantissa = d.mantissa) : c = d := by
  have hbit : (c.word.toNat / 2 ^ 23 % 2 = 1) ↔ (d.word.toNat / 2 ^ 23 % 2 = 1) := by
    simpa [sign_eq, Nat.testBit_eq_decide_div_mod_eq] using hsign
  rw [size_eq, size_eq] at hsize
  rw [mantissa_eq, mantissa_eq] at hmantissa
  have hword : c.word = d.word := UInt32.toNat_inj.mp (by omega)
  cases c; cases d
  exact congrArg Compact.mk hword

/-- Encoding writes the words without a sign, of one byte or more, whose mantissa reaches into
    the last but one of the bytes that a longer word counts and keeps out of those that it does
    not count. -/
theorem canonical_iff (c : Compact) :
    c.Canonical ↔ c.sign = false ∧ 0 < c.size ∧ (1 < c.size → 0x8000 ≤ c.mantissa) ∧
      2 ^ (8 * (3 - c.size)) ∣ c.mantissa := by
  refine ⟨fun h => ?_, fun ⟨hsign, hpos, hfull, hdvd⟩ => ?_⟩
  · have hsize := h.byteSize_target
    have hmantissa : leading c.target = c.mantissa := by
      rw [← mantissa_ofTarget, h]
    have hsign : c.sign = false := by
      rw [← h]
      exact sign_ofTarget _
    rw [← hsize, ← hmantissa]
    exact ⟨hsign, byteSize_pos _, le_leading, dvd_leading _⟩
  · have hsize := byteSize_target_of_full hpos hfull
    apply eq_of_fields
    · rw [sign_ofTarget, hsign]
    · rw [size_ofTarget_of_lt c.target_lt, hsize]
    · rw [mantissa_ofTarget, leading_target hsize hdvd]

/-- Encoding keeps the value of every word. It keeps the word itself just when that has no sign
    and one byte with nothing behind it, two bytes with nothing behind them and a mantissa from
    `0x8000` on, or three bytes and more and such a mantissa. And two words have one value just
    when encoding makes one word of them. -/
theorem canonical_words :
    (∀ c : Compact, (ofTarget c.target).target = c.target) ∧
    (∀ c : Compact, ofTarget c.target = c ↔ c.sign = false ∧
      (c.size = 1 ∧ c.mantissa % 0x10000 = 0 ∨
        c.size = 2 ∧ c.mantissa % 0x100 = 0 ∧ 0x8000 ≤ c.mantissa ∨
        3 ≤ c.size ∧ 0x8000 ≤ c.mantissa)) ∧
    (∀ c d : Compact, c.target = d.target ↔ ofTarget c.target = ofTarget d.target) := by
  refine ⟨target_ofTarget_target, fun c => ?_, fun c d => ⟨congrArg ofTarget, fun h => ?_⟩⟩
  · refine (canonical_iff c).trans (and_congr_right fun _ => ?_)
    rcases Nat.lt_or_ge c.size 3 with hs | hs
    · obtain hsize | hsize | hsize : c.size = 0 ∨ c.size = 1 ∨ c.size = 2 := by omega
      · simp [hsize]
      · simp [hsize, Nat.dvd_iff_mod_eq_zero]
      · simp [hsize, Nat.dvd_iff_mod_eq_zero, and_comm]
    · rw [Nat.sub_eq_zero_of_le hs]
      simp only [Nat.mul_zero, Nat.pow_zero, Nat.one_dvd, and_true]
      omega
  · rw [← target_ofTarget_target c, h, target_ofTarget_target]

/-! ## Rounding in order -/

theorem truncate_mono (k : Nat) {s t : Nat} (h : s ≤ t) : truncate k s ≤ truncate k t :=
  Nat.mul_le_mul_right _ (Nat.div_le_div_right h)

/-- Cutting every number to its own three leading bytes keeps the order. -/
theorem truncate_byteSize_mono {s t : Nat} (h : s ≤ t) :
    truncate (byteSize s) s ≤ truncate (byteSize t) t := by
  rcases Nat.eq_or_lt_of_le (byteSize_mono h) with heq | hlt
  · rw [heq]
    exact truncate_mono _ h
  · -- the lowest number of the greater length lies between the two
    have hpos := byteSize_pos s
    have hk : 0 < byteSize t - 1 := by omega
    have hlow : 2 ^ (8 * (byteSize t - 1) - 1) ≤ t := (lt_byteSize_iff t hk).mp (by omega)
    calc truncate (byteSize s) s
        ≤ s := truncate_le _ _
      _ ≤ 2 ^ (8 * byteSize s - 1) := Nat.le_of_lt (lt_two_pow_byteSize s)
      _ ≤ 2 ^ (8 * (byteSize t - 1) - 1) := Nat.pow_le_pow_right (by decide) (by omega)
      _ ≤ truncate (byteSize t) t := two_pow_le_truncate (by omega) hlow

/-- No word stands for a number between another number and its encoding. -/
theorem target_le_target_ofTarget {c : Compact} {t : Nat} (ht : t < 2 ^ 2039)
    (h : c.target ≤ t) : c.target ≤ (ofTarget t).target := by
  calc c.target
      = truncate (byteSize c.target) c.target := (truncate_target c).symm
    _ ≤ truncate (byteSize t) t := truncate_byteSize_mono h
    _ = (ofTarget t).target := (target_ofTarget ht).symm

theorem target_ofTarget_mono {s t : Nat} (h : s ≤ t) (ht : t < 2 ^ 2039) :
    (ofTarget s).target ≤ (ofTarget t).target :=
  target_le_target_ofTarget ht (Nat.le_trans (target_ofTarget_le s) h)

theorem leading_mono {s t : Nat} (h : s ≤ t) (hsize : byteSize s = byteSize t) :
    leading s ≤ leading t := by
  rw [leading_eq, leading_eq, hsize]
  exact Nat.div_le_div_right (Nat.mul_le_mul_right _ h)

/-- As long as the length fits its byte, the word grows with the number: first by its length,
    then by its mantissa. -/
theorem ofTarget_mono {s t : Nat} (h : s ≤ t) (ht : t < 2 ^ 2039) :
    (ofTarget s).word.toNat ≤ (ofTarget t).word.toNat := by
  have hs := leading_lt s
  have ht' := leading_lt t
  have hsize := byteSize_mono h
  have hbyte := byteSize_lt_256 ht
  rw [word_ofTarget, word_ofTarget, Nat.mod_eq_of_lt (by omega), Nat.mod_eq_of_lt (by omega)]
  rcases Nat.eq_or_lt_of_le hsize with heq | hlt
  · have := leading_mono h heq
    omega
  · omega

/-- Canonical words are ordered as their numbers are. -/
theorem Canonical.word_lt_iff {c d : Compact} (hc : c.Canonical) (hd : d.Canonical) :
    c.word < d.word ↔ c.target < d.target := by
  have hmono : ∀ {a b : Compact}, a.Canonical → b.Canonical → a.target ≤ b.target →
      a.word.toNat ≤ b.word.toNat := by
    intro a b ha hb hle
    have hword := ofTarget_mono hle b.target_lt
    rwa [ha, hb] at hword
  rw [UInt32.lt_iff_toNat_lt]
  refine ⟨fun h => ?_, fun h => ?_⟩
  · apply Nat.lt_of_not_le
    intro hle
    exact Nat.not_le_of_lt h (hmono hd hc hle)
  · apply Nat.lt_of_le_of_ne (hmono hc hd (Nat.le_of_lt h))
    intro hword
    rw [UInt32.toNat_inj] at hword
    have hsame : c.target = d.target := congrArg (fun w => (Compact.mk w).target) hword
    omega

/-- A canonical word is told by its number. -/
theorem Canonical.word_inj {c d : Compact} (hc : c.Canonical) (hd : d.Canonical) :
    c.word = d.word ↔ c.target = d.target := by
  refine ⟨congrArg fun w => (Compact.mk w).target, fun h => ?_⟩
  rw [← hc, ← hd, h]

theorem Canonical.compare_eq {c d : Compact} (hc : c.Canonical) (hd : d.Canonical) :
    compare c d = compare c.target d.target := by
  show compareOfLessAndEq c.word d.word = compareOfLessAndEq c.target d.target
  simp only [compareOfLessAndEq, hc.word_lt_iff hd, hc.word_inj hd]

/-- Encoding never sets the sign and never rounds up, whatever the length of the number. Below
    `2 ^ 2039`, where the length fits its byte, nothing that any word stands for lies between a
    number and its encoding, encoding keeps the order, and the order of the words it writes is
    that of their numbers. -/
theorem encoding_floors_in_order :
    (∀ t, (ofTarget t).sign = false ∧ (ofTarget t).target ≤ t) ∧
    (∀ t < 2 ^ 2039, ∀ c : Compact, c.target ≤ t → c.target ≤ (ofTarget t).target) ∧
    (∀ s t, s ≤ t → t < 2 ^ 2039 → ofTarget s ≤ ofTarget t) ∧
    (∀ s < 2 ^ 2039, ∀ t < 2 ^ 2039,
      compare (ofTarget s) (ofTarget t) = compare (ofTarget s).target (ofTarget t).target) := by
  refine ⟨fun t => ⟨sign_ofTarget t, target_ofTarget_le t⟩, ?_, ?_, ?_⟩
  · intro t ht c hle
    exact target_le_target_ofTarget ht hle
  · intro s t hle ht
    exact UInt32.le_iff_toNat_le.mpr (ofTarget_mono hle ht)
  · intro s hs t ht
    exact (canonical_ofTarget hs).compare_eq (canonical_ofTarget ht)

/-- From two bytes to three, where the mantissa drops from `0x7fff00` to `0x008000`, and against
    a word that is not canonical. -/
theorem encoding_floors_across_length :
    (ofTarget 0x7fff).word = 0x027fff00 ∧ (ofTarget 0x8000).word = 0x03008000 ∧
    (ofTarget 0x8000).target ≤ 0x8000 ∧ ofTarget 0x7fff ≤ ofTarget 0x8000 ∧
    (⟨0x03007fff⟩ : Compact).target ≤ (ofTarget 0x8000).target ∧
    compare (ofTarget 0x7fff) (ofTarget 0x8000) =
      compare (ofTarget 0x7fff).target (ofTarget 0x8000).target := by
  have hshort : ∀ t < 2 ^ 16, t < 2 ^ 2039 := fun t h =>
    lt_of_lt_of_le h (pow_le_pow_right₀ (by decide) (by decide))
  obtain ⟨hfloor, hgreatest, hmono, horder⟩ := encoding_floors_in_order
  exact ⟨by decide, by decide, (hfloor 0x8000).2,
    hmono 0x7fff 0x8000 (by decide) (hshort _ (by decide)),
    hgreatest 0x8000 (hshort _ (by decide)) ⟨0x03007fff⟩ (by decide),
    horder 0x7fff (hshort _ (by decide)) 0x8000 (hshort _ (by decide))⟩

end Retargeting.Compact
