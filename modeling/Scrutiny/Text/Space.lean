import Scrutiny.Text.Search

/-! White space, by the Unicode property together with the four information separators. -/
namespace Scrutiny.Text

def spaceRanges : List (Nat × Nat) :=
  [(0x9, 0xD), (0x1C, 0x20), (0x85, 0x85), (0xA0, 0xA0), (0x1680, 0x1680), (0x2000, 0x200A),
   (0x2028, 0x2029), (0x202F, 0x202F), (0x205F, 0x205F), (0x3000, 0x3000)]

/-- Whether a code point lies in one of the ranges, ends included. -/
def inRanges (ranges : List (Nat × Nat)) (code : Nat) : Bool :=
  ranges.any fun r => r.1 ≤ code && code ≤ r.2

def isSpace (c : Char) : Bool :=
  inRanges spaceRanges c.toNat

/-- The text without white space at either end. -/
def strip (text : List Char) : List Char :=
  trim isSpace text

end Scrutiny.Text
