import LakeAdmin.Text.Wide

/-!
Codecs that a type of content may name. They are many, and any of them may refuse what
it is given, in its own words.
-/

namespace LakeAdmin.Text

/-- How a codec refuses. -/
structure CodecFault where
  kind : String
  message : String
  deriving DecidableEq, Repr

/-- What bytes are read as. -/
abbrev Codec := List UInt8 → Except CodecFault Wide

namespace Codec

/-- The codec in which every byte is the character of its number. -/
def latin1 : Codec := fun bytes =>
  .ok (.plain (String.ofList (bytes.map fun b => Char.ofNat b.toNat)))

/-- The code units of two bytes each, the higher one first. A byte that is left over counts for
U+FFFD, along with the half of a pair before it. -/
def units : List UInt8 → List Nat
  | [] => []
  | [_] => [0xFFFD]
  | [high, low, _] =>
    let unit := high.toNat * 0x100 + low.toNat
    if Point.isHigh unit then [0xFFFD] else [unit, 0xFFFD]
  | high :: low :: rest => (high.toNat * 0x100 + low.toNat) :: units rest

/-- UTF-16 with the higher byte first, and with U+FFFD for half a pair. -/
def utf16 : Codec := fun bytes =>
  .ok (.plain (String.ofList ((Point.join (units bytes)).map Point.shown)))

/-- The codec that reads nothing. -/
def undefined : Codec := fun _ => .error ⟨"UnicodeError", "undefined encoding"⟩

end Codec

end LakeAdmin.Text
