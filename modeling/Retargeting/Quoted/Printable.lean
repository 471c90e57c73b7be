import Retargeting.Quoted.Extending
import Retargeting.Quoted.Unassigned

/- The characters that do not show as themselves between quotes, by their
   properties in Unicode 17. Besides unassigned and extending ones these are
   silent characters: controls, format characters, private use, separators other
   than the blank, and four letters that fill an empty place and are ignored. -/
namespace Retargeting.Quoted

/-- Ranges of controls, format characters, private use and separators, ends
    included, in ascending order. -/
def silent : List (Nat × Nat) :=
  [(0x0000, 0x001f), (0x007f, 0x00a0), (0x00ad, 0x00ad), (0x0600, 0x0605), (0x061c, 0x061c),
   (0x06dd, 0x06dd), (0x070f, 0x070f), (0x0890, 0x0891), (0x08e2, 0x08e2), (0x1680, 0x1680),
   (0x180e, 0x180e), (0x2000, 0x200f), (0x2028, 0x202f), (0x205f, 0x2064), (0x2066, 0x206f),
   (0x3000, 0x3000), (0xe000, 0xf8ff), (0xfeff, 0xfeff), (0xfff9, 0xfffb), (0x110bd, 0x110bd),
   (0x110cd, 0x110cd), (0x13430, 0x1343f), (0x1bca0, 0x1bca3), (0x1d173, 0x1d17a),
   (0xe0001, 0xe0001), (0xe0020, 0xe007f), (0xf0000, 0xffffd), (0x100000, 0x10fffd)]

/-- Ranges of letters that are ignored by default, ends included, in ascending
    order. -/
def fillers : List (Nat × Nat) :=
  [(0x115f, 0x1160), (0x3164, 0x3164), (0xffa0, 0xffa0)]

/-- Whether a code point lies in one of the ranges. -/
def inRanges (ranges : List (Nat × Nat)) (code : Nat) : Bool :=
  ranges.any fun range => range.1 ≤ code && code ≤ range.2

/-- Whether a character shows as itself. -/
def isPrintable (c : Char) : Bool :=
  !inRanges silent c.toNat && !inRanges fillers c.toNat && !inRanges extending c.toNat
    && !inRanges unassigned c.toNat

end Retargeting.Quoted
