import Retargeting.Documents.Header
import Retargeting.Proofs.Records

/- Headers as documents. A header is read from every text for a value that gives its fields,
   in whatever order they stand and among whatever members of other names, and from the list
   of its fields in their order (`Header.IsGivenBy`); so is a placed header, whose own header
   may be given in any of these ways again (`Placed.IsGivenBy`). The text is any that the
   grammar has for the value, whatever its blanks and escapes are, and the written forms are
   such texts. -/
namespace Retargeting

open Json

/-! ## Plain values -/

namespace Json

theorem signedWord_ofInt (n : Int32) : signedWord (ofInt n.toInt) = .ok n := by
  have hlo : -0x80000000 ≤ n.toInt := n.le_toInt
  have hhi : n.toInt < 0x80000000 := n.toInt_lt
  rw [signedWord, integerIn_ofInt "i32" hlo hhi]
  simp [Except.map]

theorem byte_ofInt (b : UInt8) : byte (ofInt b.toNat) = .ok b := by
  have hb : (b.toNat : Int) < 0x100 := by
    have := b.toNat_lt
    omega
  rw [byte, integerIn_ofInt "u8" (Int.natCast_nonneg _) hb]
  simp [Except.map]

theorem byteList_ofBytes (bs : List UInt8) :
    byteList (bs.map fun b => ofInt b.toNat) = .ok bs := by
  induction bs with
  | nil => rfl
  | cons b bs ih =>
    rw [List.map_cons, byteList, byte_ofInt, Except.bind, ih]
    rfl

theorem digest_ofDigest (d : Digest) : digest (ofDigest d) = .ok d := by
  rw [ofDigest, digest, byteList_ofBytes, Except.bind, Digest.ofBytes?_bytes]

theorem legible_ofInt (n : Int) : (ofInt n).Legible := .number trivial

theorem legible_ofDigest (d : Digest) : (ofDigest d).Legible := by
  apply Legible.array
  intro j hj
  obtain ⟨b, _, rfl⟩ := List.mem_map.mp hj
  exact legible_ofInt b.toNat

end Json

theorem Compact.ofJson_toJson (c : Compact) : ofJson c.toJson = .ok c := by
  rw [ofJson, toJson, word_ofWord]
  rfl

/-! ## Headers -/

namespace Header
variable (h : Header) {j : Json}

/-- The fields with their values as they are written. -/
def entries : List (String × Json) :=
  [(versionField.name, ofInt h.version.toInt), (parentField.name, ofDigest h.parent),
    (merkleRootField.name, ofDigest h.merkleRoot), (timeField.name, ofWord h.time),
    (bitsField.name, h.bits.toJson), (nonceField.name, ofWord h.nonce)]

theorem toJson_eq : h.toJson = .object (members h.entries) := rfl

theorem names_nodup : (slots.map Prod.fst).Nodup := by
  simp [slots, FieldReader.slot, versionField, parentField, merkleRootField, timeField, bitsField,
    nonceField]

/-- Each field's reader takes what is written for it. -/
theorem reads : versionField.read (ofInt h.version.toInt) = .ok h.version ∧
    parentField.read (ofDigest h.parent) = .ok h.parent ∧
    merkleRootField.read (ofDigest h.merkleRoot) = .ok h.merkleRoot ∧
    timeField.read (ofWord h.time) = .ok h.time ∧ bitsField.read h.bits.toJson = .ok h.bits ∧
    nonceField.read (ofWord h.nonce) = .ok h.nonce := by
  simp [versionField, parentField, merkleRootField, timeField, bitsField, nonceField,
    signedWord_ofInt, digest_ofDigest, word_ofWord, Compact.ofJson_toJson]

theorem spells_entries : Spells slots h.entries := by
  obtain ⟨hversion, hparent, hroot, htime, hbits, hnonce⟩ := h.reads
  exact .cons ⟨rfl, FieldReader.slot_ok hversion⟩ (.cons ⟨rfl, FieldReader.slot_ok hparent⟩
    (.cons ⟨rfl, FieldReader.slot_ok hroot⟩ (.cons ⟨rfl, FieldReader.slot_ok htime⟩
      (.cons ⟨rfl, FieldReader.slot_ok hbits⟩ (.cons ⟨rfl, FieldReader.slot_ok hnonce⟩ .nil)))))

/-- A value that gives the fields of a header. -/
def IsGivenBy (j : Json) : Prop := Holds slots h.entries j

theorem ofJson_of_given (hj : h.IsGivenBy j) : ofJson j = .ok h := by
  obtain ⟨given, hfields, hgiven⟩ := hj.fields_eq "Header" names_nodup h.spells_entries
  simp only [entries, List.forall_mem_cons] at hgiven
  obtain ⟨gversion, gparent, groot, gtime, gbits, gnonce, _⟩ := hgiven
  obtain ⟨hversion, hparent, hroot, htime, hbits, hnonce⟩ := h.reads
  rw [ofJson, hfields]
  simp only [Except.bind, Except.map, FieldReader.get_eq gversion hversion,
    FieldReader.get_eq gparent hparent, FieldReader.get_eq groot hroot,
    FieldReader.get_eq gtime htime, FieldReader.get_eq gbits hbits,
    FieldReader.get_eq gnonce hnonce]

theorem isGivenBy_toJson : h.IsGivenBy h.toJson := by
  rw [toJson_eq]
  exact .members (.of_eq (h.spells_entries.own_eq names_nodup))

theorem legible_entries : ∀ e ∈ h.entries, e.2.Legible := by
  simp only [entries, List.forall_mem_cons]
  refine ⟨legible_ofInt _, legible_ofDigest _, legible_ofDigest _, legible_ofInt _,
    legible_ofInt _, legible_ofInt _, ?_⟩
  simp

theorem legible_toJson : h.toJson.Legible := legible_members h.legible_entries

end Header

/-! ## Placed headers -/

namespace Placed
variable (p : Placed) {j header : Json}

/-- The fields with this value for the header. -/
def entries (header : Json) : List (String × Json) :=
  [(headerField.name, header), (heightField.name, ofWord p.height)]

theorem toJson_eq : p.toJson = .object (members (p.entries p.header.toJson)) := rfl

theorem names_nodup : (slots.map Prod.fst).Nodup := by
  simp [slots, FieldReader.slot, headerField, heightField]

/-- Each field's reader takes what gives its field. -/
theorem reads (hheader : p.header.IsGivenBy header) : headerField.read header = .ok p.header ∧
    heightField.read (ofWord p.height) = .ok p.height := by
  simp [headerField, heightField, p.header.ofJson_of_given hheader, word_ofWord]

theorem spells_entries (hheader : p.header.IsGivenBy header) :
    Spells slots (p.entries header) := by
  obtain ⟨hread, hheight⟩ := p.reads hheader
  exact .cons ⟨rfl, FieldReader.slot_ok hread⟩ (.cons ⟨rfl, FieldReader.slot_ok hheight⟩ .nil)

/-- A value that gives the fields of a placed header, the header in turn by its own. -/
def IsGivenBy (j : Json) : Prop :=
  ∃ header, p.header.IsGivenBy header ∧ Holds slots (p.entries header) j

theorem ofJson_of_given (hj : p.IsGivenBy j) : ofJson j = .ok p := by
  obtain ⟨header, hheader, hj⟩ := hj
  obtain ⟨given, hfields, hgiven⟩ := hj.fields_eq "Placed" names_nodup (p.spells_entries hheader)
  simp only [entries, List.forall_mem_cons] at hgiven
  obtain ⟨gheader, gheight, _⟩ := hgiven
  obtain ⟨hread, hheight⟩ := p.reads hheader
  rw [ofJson, hfields]
  simp only [Except.bind, Except.map, FieldReader.get_eq gheader hread,
    FieldReader.get_eq gheight hheight]

theorem isGivenBy_toJson : p.IsGivenBy p.toJson := by
  have hheader := p.header.isGivenBy_toJson
  refine ⟨p.header.toJson, hheader, ?_⟩
  rw [toJson_eq]
  exact .members (.of_eq ((p.spells_entries hheader).own_eq names_nodup))

theorem legible_entries (hheader : header.Legible) : ∀ e ∈ p.entries header, e.2.Legible := by
  simp only [entries, List.forall_mem_cons]
  refine ⟨hheader, legible_ofInt _, ?_⟩
  simp

theorem legible_toJson : p.toJson.Legible :=
  legible_members (p.legible_entries p.header.legible_toJson)

end Placed

/-! ## Documents -/

/-- A header is read from every text that gives its fields: as members in whatever order and
    among whatever members of other names, or as the list of them. A placed header is read
    likewise, whichever way its own header is given; and both are read from what is written
    for them. -/
theorem headers_in_any_order :
    (∀ (h : Header) (document : String) (j : Json), IsDocument document.toList j →
      h.IsGivenBy j → decode Header.ofJson document = .ok h) ∧
    (∀ (p : Placed) (document : String) (j : Json), IsDocument document.toList j →
      p.IsGivenBy j → decode Placed.ofJson document = .ok p) ∧
    (∀ h : Header, decode Header.ofJson (String.ofList h.toJson.compact) = .ok h) ∧
    ∀ p : Placed, decode Placed.ofJson (String.ofList p.toJson.compact) = .ok p := by
  refine ⟨fun h document j hdocument hj => ?_, fun p document j hdocument hj => ?_,
    fun h => ?_, fun p => ?_⟩
  · rw [decode, hdocument.parse?_eq]
    exact h.ofJson_of_given hj
  · rw [decode, hdocument.parse?_eq]
    exact p.ofJson_of_given hj
  · rw [Json.compact, decode_render Header.ofJson Layout.blank_compact h.legible_toJson]
    exact h.ofJson_of_given h.isGivenBy_toJson
  · rw [Json.compact, decode_render Placed.ofJson Layout.blank_compact p.legible_toJson]
    exact p.ofJson_of_given p.isGivenBy_toJson

/-- A placed header behind its height, with its fields from the last one on, a list that is no
    field among them and half a pair at the end. -/
theorem headers_in_any_order_height_first :
    let h : Header := ⟨-1, .zero, .zero, 4294967295, ⟨0x1e0fffff⟩, 7⟩
    let half : Json := .array [.number (.real ⟨true, ['0'], ['5'], []⟩)]
    let header : Json := .object (members (("nonce", ofWord h.nonce) :: ("half", half) ::
      h.entries.take 5))
    let j : Json := .object (members [("height", ofWord 4), ("header", header),
      ("", .string [.half 0xd800])])
    decode Placed.ofJson (String.ofList j.indented) = .ok ⟨h, 4⟩ ∧
      decode Header.ofJson (String.ofList header.compact) = .ok h := by
  intro h half header j
  have hhalf : half.Legible := by
    refine .array fun k hk => ?_
    obtain rfl := List.mem_singleton.mp hk
    exact .number ⟨⟨⟨by simp, by simp, by simp⟩, by simp, .inl rfl⟩, rfl⟩
  have hlegible : header.Legible := by
    apply legible_members
    simp only [List.forall_mem_cons]
    exact ⟨legible_ofInt _, hhalf, fun e he => h.legible_entries e (List.mem_of_mem_take he)⟩
  have hdocument : IsDocument j.indented j := by
    apply isDocument_render Layout.blank_indented (legible_members _)
    simp only [List.forall_mem_cons]
    exact ⟨legible_ofInt _, hlegible, .string ⟨rfl, trivial⟩, by simp⟩
  have hheader : h.IsGivenBy header := .members (List.perm_append_singleton _ _).symm
  have hplaced : (⟨h, 4⟩ : Placed).IsGivenBy j := ⟨header, hheader, .members (.swap _ _ _)⟩
  refine ⟨headers_in_any_order.2.1 _ _ j ?_ hplaced, headers_in_any_order.1 _ _ header ?_ hheader⟩
  · rwa [String.toList_ofList]
  · rw [String.toList_ofList]
    exact isDocument_render Layout.blank_compact hlegible

end Retargeting
