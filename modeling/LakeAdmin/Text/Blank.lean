/-!
Blank characters and how texts are stripped of them. There are three sets: ASCII
blanks for raw bytes, the white space of Unicode around numbers, and the
wider set of `isBlank`, which adds the four information separators, for names and
free text. Sets of code points are given as ranges.
-/

namespace LakeAdmin.Text

def inRanges (ranges : List (Nat × Nat)) (n : Nat) : Bool :=
  ranges.any fun (first, last) => first ≤ n && n ≤ last

def isWhite (c : Char) : Bool :=
  inRanges [(0x9, 0xD), (0x20, 0x20), (0x85, 0x85), (0xA0, 0xA0), (0x1680, 0x1680),
    (0x2000, 0x200A), (0x2028, 0x2029), (0x202F, 0x202F), (0x205F, 0x205F),
    (0x3000, 0x3000)] c.toNat

/-- White space and the four information separators. -/
def isBlank (c : Char) : Bool :=
  isWhite c || inRanges [(0x1C, 0x1F)] c.toNat

/-- The ASCII blanks: space, tab, line feed, vertical tab, form feed and return. -/
def isBlankByte (b : UInt8) : Bool :=
  b == 0x20 || (0x09 ≤ b && b ≤ 0x0D)

def strip (p : α → Bool) (l : List α) : List α :=
  ((l.dropWhile p).reverse.dropWhile p).reverse

def allBlank (s : String) : Bool := s.toList.all isBlank

def dropLeading (p : Char → Bool) (s : String) : String :=
  String.ofList (s.toList.dropWhile p)

def dropTrailing (p : Char → Bool) (s : String) : String :=
  String.ofList (s.toList.reverse.dropWhile p).reverse

end LakeAdmin.Text
