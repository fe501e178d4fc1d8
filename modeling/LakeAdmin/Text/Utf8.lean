import LakeAdmin.Text.Wide

/-!
UTF-8 read with replacement, or strictly but for surrogates. `step` takes one
well-formed character off the front or names the ill-formed sequence there, which is
as long as a valid prefix of a character reaches. `replace` writes U+FFFD for each such
sequence. `pass` reads a surrogate that is written out in three bytes, and stops at any
other.
-/

namespace LakeAdmin.Text.Utf8

/-- What is wrong with a sequence of bytes. -/
inductive Fault where
  | start
  | continuation
  | end
  deriving DecidableEq, Repr

/-- The front of a byte text: a character and its size, or an ill-formed
sequence and its size. -/
inductive Step where
  | char (c : Char) (size : Nat)
  | bad (fault : Fault) (size : Nat)
  deriving DecidableEq, Repr

/-- The payload of a continuation byte that lies in the allowed range. -/
def payload? (low high : Nat) (b : UInt8) : Option Nat :=
  if low ≤ b.toNat ∧ b.toNat ≤ high then some (b.toNat % 64) else none

/-- Reads continuation bytes, the first from its own range. `seen` bytes have
been read and make up `value`. -/
def continue' (value seen : Nat) : List (Nat × Nat) → List UInt8 → Step
  | [], _ => .char (Char.ofNat value) seen
  | _ :: _, [] => .bad .end seen
  | (low, high) :: ranges, b :: rest =>
    match payload? low high b with
    | some bits => continue' (value * 64 + bits) (seen + 1) ranges rest
    | none => .bad .continuation seen

/-- The range of an ordinary continuation byte. -/
def anyTail : Nat × Nat := (0x80, 0xBF)

/-- What stands at the front of a byte text that begins with `b`. -/
def step (b : UInt8) (rest : List UInt8) : Step :=
  let n := b.toNat
  if n < 0x80 then .char (Char.ofNat n) 1
  else if n < 0xC2 then .bad .start 1
  else if n < 0xE0 then continue' (n % 32) 1 [anyTail] rest
  else if n = 0xE0 then continue' 0 1 [(0xA0, 0xBF), anyTail] rest
  else if n = 0xED then continue' 0xD 1 [(0x80, 0x9F), anyTail] rest
  else if n < 0xF0 then continue' (n % 16) 1 [anyTail, anyTail] rest
  else if n = 0xF0 then continue' 0 1 [(0x90, 0xBF), anyTail, anyTail] rest
  else if n < 0xF4 then continue' (n % 8) 1 [anyTail, anyTail, anyTail] rest
  else if n = 0xF4 then continue' 4 1 [(0x80, 0x8F), anyTail, anyTail] rest
  else .bad .start 1

/-- An ill-formed sequence in a byte text: its place, size and first byte. -/
structure Illformed where
  position : Nat
  size : Nat
  byte : UInt8
  fault : Fault
  deriving DecidableEq, Repr

/-- What stands for an ill-formed sequence, and how many bytes that takes: the answer
to its place, its first byte and what follows, its fault and its size. -/
abbrev Handler (α : Type) :=
  Nat → UInt8 → List UInt8 → Fault → Nat → Except Illformed (α × Nat)

/-- Reads a whole byte text, `skip` bytes of which belong to what was just read. Each
ill-formed sequence is answered by `put`, which may end the reading. -/
def decodeFrom (char : Char → α) (put : Handler α) :
    (position skip : Nat) → List UInt8 → Except Illformed (List α)
  | _, _, [] => .ok []
  | position, skip + 1, _ :: rest => decodeFrom char put (position + 1) skip rest
  | position, 0, b :: rest => do
    match step b rest with
    | .char c size =>
      let others ← decodeFrom char put (position + 1) (size - 1) rest
      return char c :: others
    | .bad fault size =>
      let (instead, size) ← put position b rest fault size
      let others ← decodeFrom char put (position + 1) (size - 1) rest
      return instead :: others

/-- Writes U+FFFD for each sequence. -/
def mark : Handler Char := fun _ _ _ _ size => .ok (Char.ofNat 0xFFFD, size)

/-- The surrogate that three bytes write out. -/
def surrogate? (b : UInt8) : List UInt8 → Option (Fin 0x800)
  | c :: d :: _ =>
    if b = 0xED ∧ 0xA0 ≤ c ∧ c ≤ 0xBF ∧ 0x80 ≤ d ∧ d ≤ 0xBF then
      some (Point.offset (0xD000 + c.toNat % 64 * 64 + d.toNat % 64))
    else none
  | _ => none

/-- Lets surrogates pass and refuses all else. -/
def refuse : Handler Point := fun position b rest fault size =>
  match surrogate? b rest with
  | some offset => .ok (.lone offset, 3)
  | none => .error ⟨position, size, b, fault⟩

/-- The characters of a byte text with U+FFFD for each ill-formed sequence. -/
def replace (bytes : List UInt8) : List Char :=
  match decodeFrom id mark 0 0 bytes with
  | .ok text => text
  | .error _ => []

/-- The code points of a byte text that may write out surrogates, or its first
sequence that is ill-formed otherwise. -/
def pass (bytes : List UInt8) : Except Illformed (List Point) :=
  decodeFrom .char refuse 0 0 bytes

def encode (s : String) : List UInt8 := s.toUTF8.toList

end LakeAdmin.Text.Utf8
