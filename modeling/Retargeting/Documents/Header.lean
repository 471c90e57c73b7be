import Retargeting.Header
import Retargeting.Json.Record

/- Headers as JSON documents: integers are plain numbers, a hash is the list of
   its bytes, and a placed header has its header as a record of its own. -/
namespace Retargeting

open Json (FieldReader Slot Mismatch)

/-- The compact target that a JSON value describes: its bare word. -/
def Compact.ofJson (j : Json) : Except Mismatch Compact := (Json.word j).map Compact.mk

def Compact.toJson (c : Compact) : Json := Json.ofWord c.word

namespace Header

def versionField : FieldReader Int32 := ⟨"version", Json.signedWord⟩

def parentField : FieldReader Digest := ⟨"prev_block_hash", Json.digest⟩

def merkleRootField : FieldReader Digest := ⟨"merkle_root", Json.digest⟩

def timeField : FieldReader UInt32 := ⟨"time", Json.word⟩

def bitsField : FieldReader Compact := ⟨"bits", Compact.ofJson⟩

def nonceField : FieldReader UInt32 := ⟨"nonce", Json.word⟩

def slots : List Slot :=
  [versionField.slot, parentField.slot, merkleRootField.slot, timeField.slot, bitsField.slot,
    nonceField.slot]

def ofJson (j : Json) : Except Mismatch Header :=
  (Json.fields "Header" slots j).bind fun given =>
    (versionField.get given).bind fun version =>
      (parentField.get given).bind fun parent =>
        (merkleRootField.get given).bind fun merkleRoot =>
          (timeField.get given).bind fun time =>
            (bitsField.get given).bind fun bits =>
              (nonceField.get given).map fun nonce =>
                ⟨version, parent, merkleRoot, time, bits, nonce⟩

def toJson (h : Header) : Json :=
  .object [Json.member versionField.name (Json.ofInt h.version.toInt),
    Json.member parentField.name (Json.ofDigest h.parent),
    Json.member merkleRootField.name (Json.ofDigest h.merkleRoot),
    Json.member timeField.name (Json.ofWord h.time),
    Json.member bitsField.name h.bits.toJson,
    Json.member nonceField.name (Json.ofWord h.nonce)]

end Header

namespace Placed

def headerField : FieldReader Header := ⟨"header", Header.ofJson⟩

def heightField : FieldReader UInt32 := ⟨"height", Json.word⟩

def slots : List Slot := [headerField.slot, heightField.slot]

def ofJson (j : Json) : Except Mismatch Placed :=
  (Json.fields "Placed" slots j).bind fun given =>
    (headerField.get given).bind fun header =>
      (heightField.get given).map fun height => ⟨header, height⟩

def toJson (p : Placed) : Json :=
  .object [Json.member headerField.name p.header.toJson,
    Json.member heightField.name (Json.ofWord p.height)]

end Placed

end Retargeting
