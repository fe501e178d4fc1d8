import LakeAdmin.Text.Digit
import LakeAdmin.Text.Printable
import LakeAdmin.Text.Wide

/-!
Texts in quotes, for messages. Single quotes are used unless the text holds a
single quote and no double one. The quote in use and the backslash are escaped,
and so is every character without a visible form.
-/

namespace LakeAdmin

namespace Text.Quoted

def quoteFor (l : List Char) : Char :=
  if l.contains '\'' && !l.contains '"' then '"' else '\''

def encodeChar (quote c : Char) : List Char :=
  if c = quote ∨ c = '\\' then ['\\', c]
  else if c = '\n' then ['\\', 'n']
  else if c = '\r' then ['\\', 'r']
  else if c = '\t' then ['\\', 't']
  else if isPrintable c then [c]
  else if c.toNat < 0x100 then '\\' :: 'x' :: hexLower 2 c.toNat
  else if c.toNat < 0x10000 then '\\' :: 'u' :: hexLower 4 c.toNat
  else '\\' :: 'U' :: hexLower 8 c.toNat

def encodePoint (quote : Char) : Point → List Char
  | .char c => encodeChar quote c
  | .lone offset => '\\' :: 'u' :: hexLower 4 (Point.lone offset).code

def encodePoints (l : List Point) : String :=
  let quote := quoteFor (l.map Point.shown)
  String.ofList (quote :: l.flatMap (encodePoint quote) ++ [quote])

def encode (s : String) : String :=
  let quote := quoteFor s.toList
  String.ofList (quote :: s.toList.flatMap (encodeChar quote) ++ [quote])

end Text.Quoted

/-- Kinds of texts. Texts of characters are of every kind, and all texts can be shown, but
some cannot be encoded. -/
class TextLike (τ : Type) where
  ofString : String → τ
  shown : τ → String
  quoted : τ → String
  encodes : τ → Bool

instance : TextLike String := ⟨id, id, Text.Quoted.encode, fun _ => true⟩

instance : TextLike Wide where
  ofString := .plain
  shown := Wide.shown
  quoted
    | .plain s => Text.Quoted.encode s
    | .ragged text => Text.Quoted.encodePoints text.points
  encodes := Wide.isPlain

end LakeAdmin
