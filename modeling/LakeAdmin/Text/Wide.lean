import LakeAdmin.Text.Blank

/-!
Texts as documents spell them out. A document may name a surrogate without its
partner. That is no character, and a text with one cannot be sent, but it is read and
kept like any other.
-/

namespace LakeAdmin

/-- A code point: a character, or a surrogate on its own, counted from U+D800. -/
inductive Point where
  | char (c : Char)
  | lone (offset : Fin 0x800)
  deriving DecidableEq, Repr

namespace Point

instance : Coe Char Point := ⟨char⟩

def code : Point → Nat
  | char c => c.toNat
  | lone offset => 0xD800 + offset

def offset (surrogate : Nat) : Fin 0x800 := Fin.ofNat 0x800 (surrogate - 0xD800)

/-- The code point of a number, which may be a code unit. -/
def ofCode (n : Nat) : Point :=
  if 0xD800 ≤ n ∧ n < 0xE000 then lone (offset n) else char (Char.ofNat n)

def isLone : Point → Bool
  | char _ => false
  | lone _ => true

/-- What is shown of a code point: U+FFFD where there is no character. -/
def shown : Point → Char
  | char c => c
  | lone _ => Char.ofNat 0xFFFD

/-! ## Pairs -/

/-- Whether a code unit opens a pair. -/
def isHigh (n : Nat) : Bool := 0xD800 ≤ n && n < 0xDC00

/-- Whether a code unit closes a pair. -/
def isLow (n : Nat) : Bool := 0xDC00 ≤ n && n < 0xE000

/-- The character written by a pair. -/
def ofPair (high low : Nat) : Point :=
  char (Char.ofNat (0x10000 + (high - 0xD800) * 0x400 + (low - 0xDC00)))

def join : List Nat → List Point
  | [] => []
  | [unit] => [ofCode unit]
  | unit :: next :: rest =>
    if isHigh unit && isLow next then ofPair unit next :: join rest
    else ofCode unit :: join (next :: rest)

end Point

/-- Code points that do not make up a text of characters. -/
structure Ragged where
  points : List Point
  ragged : points.any Point.isLone = true
  deriving DecidableEq, Repr

/-- A text of characters, or one that holds a surrogate on its own. -/
inductive Wide where
  | plain (s : String)
  | ragged (text : Ragged)
  deriving DecidableEq, Repr

namespace Wide

instance : Coe String Wide := ⟨plain⟩

def ofPoints (points : List Point) : Wide :=
  if lone : points.any Point.isLone = true then ragged ⟨points, lone⟩
  else plain (String.ofList (points.map Point.shown))

def points : Wide → List Point
  | plain s => s.toList.map .char
  | ragged text => text.points

def isPlain : Wide → Bool
  | plain _ => true
  | ragged _ => false

/-- The text inside running text. -/
def shown : Wide → String
  | plain s => s
  | ragged text => String.ofList (text.points.map Point.shown)

def allBlank : Wide → Bool
  | plain s => Text.allBlank s
  | ragged _ => false

def after (front : String) : Wide → Wide
  | plain s => plain (front ++ s)
  | ragged text =>
    ragged ⟨front.toList.map .char ++ text.points, by simp [text.ragged]⟩

end Wide

end LakeAdmin
