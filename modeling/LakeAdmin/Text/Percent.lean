import LakeAdmin.Text.Digit
import LakeAdmin.Text.Utf8

/-!
Percent encoding. A character outside a set of kept ones is written as the UTF-8
bytes it has, each as `%` and two capital hexadecimal digits. Reading back takes
digits of either case and leaves a `%` alone that begins no such triple.
-/

namespace LakeAdmin.Text.Percent

def encodeByte (b : UInt8) : List Char :=
  ['%', hexUpper (b.toNat / 16), hexUpper (b.toNat % 16)]

/-- One character, as it is if it is kept and byte by byte if not. -/
def encodeChar (keep : Char → Bool) (c : Char) : List Char :=
  if keep c then [c] else (String.utf8EncodeChar c).flatMap encodeByte

/-- A text with every character that is not kept encoded. -/
def encode (keep : Char → Bool) (s : String) : String :=
  String.ofList (s.toList.flatMap (encodeChar keep))

/-- The characters that never need encoding: ASCII letters, digits and `_.-~`. -/
def isUnreserved (c : Char) : Bool :=
  c.isAlphanum || c == '_' || c == '.' || c == '-' || c == '~'

def decodeBytes : List Char → List UInt8
  | [] => []
  | '%' :: a :: b :: rest =>
    match hexDigit? a, hexDigit? b with
    | some high, some low => UInt8.ofNat (high * 16 + low) :: decodeBytes rest
    | _, _ => String.utf8EncodeChar '%' ++ decodeBytes (a :: b :: rest)
  | c :: rest => String.utf8EncodeChar c ++ decodeBytes rest

/-- The text that an encoded text stands for, U+FFFD for what is not UTF-8. -/
def decode (s : String) : String :=
  String.ofList (Utf8.replace (decodeBytes s.toList))

end LakeAdmin.Text.Percent
