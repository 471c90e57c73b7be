import Mathlib.Logic.ExistsUnique
import Retargeting.Header

/- The wire form of a header, read back. `ofBytes` takes eighty bytes apart at the
   offsets where the fields begin. It undoes `bytes` (`ofBytes_bytes`), and `bytes`
   undoes it (`bytes_ofBytes`), so headers and strings of eighty bytes are the same
   thing written twice. What names a header is the digest of that string: two headers
   of one name are one header, or their strings are a pair that the digest does not
   tell apart (`hash_eq_iff`). -/
namespace Retargeting

namespace Bytes

/-- The `n` bytes from offset `start` on. -/
def slice (start n : Nat) (bs : List UInt8) : List UInt8 := (bs.drop start).take n

/-- The number whose bytes these are, lowest first, the highest bit of the last one being
    its sign. -/
def toInt (bs : List UInt8) : Int := (toNat bs : Int).bmod (1 <<< (8 * bs.length))

theorem length_slice {start n : Nat} {bs : List UInt8} (h : start + n ≤ bs.length) :
    (slice start n bs).length = n := by
  simp [slice]; omega

/-- A slice is followed by the bytes from its end on. -/
theorem slice_append_drop (start n : Nat) (bs : List UInt8) :
    slice start n bs ++ bs.drop (start + n) = bs.drop start := by
  rw [slice, ← List.drop_drop, List.take_append_drop]

/-- Bytes are written from their number as they were. -/
theorem littleEndian_toNat {n : Nat} {bs : List UInt8} (h : bs.length = n) :
    littleEndian n (toNat bs) = bs := by
  apply eq_of_toNat_eq
  · rw [littleEndian_length, h]
  · exact toNat_littleEndian n _ (h ▸ toNat_lt bs)

theorem toNat_littleEndian_four (w : UInt32) : toNat (littleEndian 4 w.toNat) = w.toNat :=
  toNat_littleEndian 4 _ w.toNat_lt

/-- Four bytes make a word. -/
theorem toNat_ofNat_toNat {bs : List UInt8} (h : bs.length = 4) :
    (UInt32.ofNat (toNat bs)).toNat = toNat bs := by
  have hlt := toNat_lt bs
  rw [h] at hlt
  exact UInt32.toNat_ofNat_of_lt' hlt

end Bytes

namespace Header

open Bytes (slice)

/-- The header that eighty bytes are the wire form of. -/
def ofBytes (bs : List UInt8) (h : bs.length = wireSize) : Header where
  version := (UInt32.ofNat (Bytes.toNat (slice 0 4 bs))).toInt32
  parent := ⟨slice 4 32 bs, Bytes.length_slice (by simp [h, wireSize])⟩
  merkleRoot := ⟨slice 36 32 bs, Bytes.length_slice (by simp [h, wireSize])⟩
  time := UInt32.ofNat (Bytes.toNat (slice 68 4 bs))
  bits := ⟨UInt32.ofNat (Bytes.toNat (slice 72 4 bs))⟩
  nonce := UInt32.ofNat (Bytes.toNat (slice 76 4 bs))

/-- The fields of a header stand in its wire form at their offsets. -/
theorem slices_bytes (h : Header) :
    slice 0 4 h.bytes = Bytes.littleEndian 4 h.version.toUInt32.toNat ∧
    slice 4 32 h.bytes = h.parent.bytes ∧ slice 36 32 h.bytes = h.merkleRoot.bytes ∧
    slice 68 4 h.bytes = Bytes.littleEndian 4 h.time.toNat ∧
    slice 72 4 h.bytes = Bytes.littleEndian 4 h.bits.word.toNat ∧
    slice 76 4 h.bytes = Bytes.littleEndian 4 h.nonce.toNat := by
  have hp := h.parent.length_bytes
  have hm := h.merkleRoot.length_bytes
  have hl := Bytes.littleEndian_length 4
  simp [bytes, slice, List.drop_append, List.drop_eq_nil_of_le, List.take_of_length_le, hp, hm, hl]

/-- Eighty bytes are their slices at the offsets of the fields. -/
theorem append_slices {bs : List UInt8} (h : bs.length = wireSize) :
    slice 0 4 bs ++ slice 4 32 bs ++ slice 36 32 bs ++ slice 68 4 bs ++ slice 72 4 bs
      ++ slice 76 4 bs = bs := by
  have hlast : slice 76 4 bs = bs.drop 76 := by
    apply List.take_of_length_le
    simp [h, wireSize]
  simp only [List.append_assoc]
  rw [hlast, Bytes.slice_append_drop 72 4, Bytes.slice_append_drop 68 4,
    Bytes.slice_append_drop 36 32, Bytes.slice_append_drop 4 32, Bytes.slice_append_drop 0 4,
    List.drop_zero]

/-- Writing a header and reading it. -/
theorem ofBytes_bytes (h : Header) : ofBytes h.bytes h.length_bytes = h := by
  obtain ⟨hversion, hparent, hroot, htime, hbits, hnonce⟩ := h.slices_bytes
  simp only [ofBytes, hversion, hparent, hroot, htime, hbits, hnonce,
    Bytes.toNat_littleEndian_four, UInt32.ofNat_toNat]
  rfl

/-- Reading a header and writing it. -/
theorem bytes_ofBytes {bs : List UInt8} (h : bs.length = wireSize) : (ofBytes bs h).bytes = bs := by
  have hword : ∀ start, start + 4 ≤ wireSize →
      Bytes.littleEndian 4 (UInt32.ofNat (Bytes.toNat (slice start 4 bs))).toNat
        = slice start 4 bs := by
    intro start hstart
    have hlen : (slice start 4 bs).length = 4 := Bytes.length_slice (h ▸ hstart)
    rw [Bytes.toNat_ofNat_toNat hlen, Bytes.littleEndian_toNat hlen]
  calc (ofBytes bs h).bytes
      = slice 0 4 bs ++ slice 4 32 bs ++ slice 36 32 bs ++ slice 68 4 bs ++ slice 72 4 bs
          ++ slice 76 4 bs := by
        simp only [bytes, ofBytes, UInt32.toUInt32_toInt32]
        rw [hword 0 (by decide), hword 68 (by decide), hword 72 (by decide), hword 76 (by decide)]
    _ = bs := append_slices h

/-- The version is signed. -/
theorem version_toInt (h : Header) : h.version.toInt = Bytes.toInt (slice 0 4 h.bytes) := by
  rw [h.slices_bytes.1, Bytes.toInt, Bytes.toNat_littleEndian_four, Bytes.littleEndian_length]
  exact BitVec.toInt_eq_toNat_bmod _

theorem bytes_injective : Function.Injective bytes := by
  intro h k hbytes
  calc h
      = ofBytes h.bytes h.length_bytes := (ofBytes_bytes h).symm
    _ = ofBytes k.bytes k.length_bytes := by simp only [hbytes]
    _ = k := ofBytes_bytes k

end Header

/-- Two strings that two rounds of SHA-256 do not tell apart. -/
def Sha256.Collide (x y : List UInt8) : Prop :=
  x ≠ y ∧ Sha256.digest (Sha256.digest x).bytes = Sha256.digest (Sha256.digest y).bytes

namespace Header

open Bytes (slice)

/-- Two headers of one name are one header, or their wire forms collide. -/
theorem hash_eq_iff (h k : Header) :
    h.hash = k.hash ↔ h = k ∨ Sha256.Collide h.bytes k.bytes := by
  refine ⟨fun hhash => ?_, fun hor => ?_⟩
  · by_cases hbytes : h.bytes = k.bytes
    · exact Or.inl (bytes_injective hbytes)
    · exact Or.inr ⟨hbytes, hhash⟩
  · rcases hor with rfl | hcollide
    · rfl
    · exact hcollide.2

/-- Every string of eighty bytes is the wire form of one header and of no other, and its fields
    are read off it at their offsets, lowest byte first: a signed number, two digests, and three
    words. So two headers differ in their wire forms, and in their hashes unless two rounds of
    SHA-256 make those two strings collide. -/
theorem wire_form_bijective :
    (∀ bs : List UInt8, bs.length = 80 → ∃! h : Header, h.bytes = bs) ∧
    (∀ h : Header, h.bytes.length = 80 ∧ h.version.toInt = Bytes.toInt (slice 0 4 h.bytes) ∧
      h.parent.bytes = slice 4 32 h.bytes ∧ h.merkleRoot.bytes = slice 36 32 h.bytes ∧
      h.time.toNat = Bytes.toNat (slice 68 4 h.bytes) ∧
      h.bits.word.toNat = Bytes.toNat (slice 72 4 h.bytes) ∧
      h.nonce.toNat = Bytes.toNat (slice 76 4 h.bytes)) ∧
    (∀ h k : Header, h ≠ k → h.bytes ≠ k.bytes ∧
      (¬ Sha256.Collide h.bytes k.bytes → h.hash ≠ k.hash)) := by
  refine ⟨fun bs hlen => ?_, fun h => ?_, fun h k hne => ?_⟩
  · refine ⟨ofBytes bs hlen, bytes_ofBytes hlen, fun h hbytes => ?_⟩
    exact bytes_injective (hbytes.trans (bytes_ofBytes hlen).symm)
  · obtain ⟨_, hparent, hroot, htime, hbits, hnonce⟩ := h.slices_bytes
    refine ⟨h.length_bytes, h.version_toInt, hparent.symm, hroot.symm, ?_, ?_, ?_⟩
    · rw [htime, Bytes.toNat_littleEndian_four]
    · rw [hbits, Bytes.toNat_littleEndian_four]
    · rw [hnonce, Bytes.toNat_littleEndian_four]
  · refine ⟨fun hbytes => hne (bytes_injective hbytes), fun hfree hhash => ?_⟩
    exact ((hash_eq_iff h k).mp hhash).elim hne hfree

/-- Eighty bytes with the lowest version, and the header that differs from it in one bit of the
    time. -/
theorem wire_form_of_lowest_version :
    let bs := [0, 0, 0, 0x80] ++ List.replicate 76 0xff
    let h : Header := ofBytes bs (by decide)
    let k : Header := { h with time := 0xfffffffe }
    (∃! h : Header, h.bytes = bs) ∧ h.version.toInt = -0x80000000 ∧ h.bytes ≠ k.bytes ∧
      h.hash ≠ k.hash := by
  intro bs h k
  obtain ⟨hunique, _, hdistinct⟩ := wire_form_bijective
  have hne : h ≠ k := by decide +kernel
  have hfree : ¬ Sha256.Collide h.bytes k.bytes := fun hcollide =>
    absurd hcollide.2 (by decide +kernel)
  exact ⟨hunique bs (by decide), by decide +kernel, (hdistinct h k hne).1,
    (hdistinct h k hne).2 hfree⟩

end Header

end Retargeting
