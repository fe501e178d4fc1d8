import LakeAdmin.Text.Digit
import LakeAdmin.Text.Utf8

/-!
The encodings in which a document may come, how a document shows which it is in,
and how each is read. A byte order mark decides; without one, the zero bytes among
the first four do. Surrogates are let pass in all of them.
-/

namespace LakeAdmin.Text

inductive Charset where
  | utf8
  | utf16 (bigEndian : Bool)
  | utf32 (bigEndian : Bool)
  deriving DecidableEq, Repr

inductive CharsetFault where
  | utf8 (fault : Utf8.Fault)
  | truncated
  | beyondUnicode
  deriving DecidableEq, Repr

/-- An ill-formed sequence: its place, size and first byte. -/
structure CharsetError where
  charset : Charset
  position : Nat
  size : Nat
  byte : UInt8
  fault : CharsetFault
  deriving DecidableEq, Repr

namespace Charset

def ofBytes (bigEndian : Bool) (bytes : List UInt8) : Nat :=
  (if bigEndian then bytes else bytes.reverse).foldl (fun n b => n * 256 + b.toNat) 0

/-- The code units of a text in units of two bytes. -/
def units (bigEndian : Bool) (position : Nat) : List UInt8 → Except CharsetError (List Nat)
  | [] => .ok []
  | [a] => .error ⟨.utf16 bigEndian, position, 1, a, .truncated⟩
  | a :: b :: rest => do
    let others ← units bigEndian (position + 2) rest
    return ofBytes bigEndian [a, b] :: others

/-- The code points of a text in units of four bytes. -/
def points (bigEndian : Bool) (position : Nat) : List UInt8 → Except CharsetError (List Nat)
  | [] => .ok []
  | a :: b :: c :: d :: rest =>
    let n := ofBytes bigEndian [a, b, c, d]
    if 0x110000 ≤ n then .error ⟨.utf32 bigEndian, position, 4, a, .beyondUnicode⟩
    else do
      let others ← points bigEndian (position + 4) rest
      return n :: others
  | a :: rest => .error ⟨.utf32 bigEndian, position, rest.length + 1, a, .truncated⟩

def decode (charset : Charset) (position : Nat) (bytes : List UInt8) :
    Except CharsetError (List Point) :=
  match charset with
  | utf8 =>
    match Utf8.pass bytes with
    | .ok text => .ok text
    | .error e => .error ⟨utf8, position + e.position, e.size, e.byte, .utf8 e.fault⟩
  | utf16 bigEndian => (units bigEndian position bytes).map Point.join
  | utf32 bigEndian => (points bigEndian position bytes).map (·.map Point.ofCode)

/-- The byte order mark of an encoding. -/
def mark : Charset → List UInt8
  | utf8 => [0xEF, 0xBB, 0xBF]
  | utf16 true => [0xFE, 0xFF]
  | utf16 false => [0xFF, 0xFE]
  | utf32 true => [0x00, 0x00, 0xFE, 0xFF]
  | utf32 false => [0xFF, 0xFE, 0x00, 0x00]

/-- The encodings, those with the longer marks before those whose marks they start with. -/
def all : List Charset := [utf32 true, utf32 false, utf16 true, utf16 false, utf8]

/-- The encoding of a document without a mark, as its zero bytes show it. -/
def unmarked : List UInt8 → Charset
  | [a, b] => if a = 0 then utf16 true else if b = 0 then utf16 false else utf8
  | a :: b :: c :: d :: _ =>
    if a = 0 then if b = 0 then utf32 true else utf16 true
    else if b = 0 then if c = 0 ∧ d = 0 then utf32 false else utf16 false
    else utf8
  | _ => utf8

/-- The encoding of a document and the size of its byte order mark. -/
def detect (bytes : List UInt8) : Charset × Nat :=
  match all.find? fun charset => charset.mark.isPrefixOf bytes with
  | some charset => (charset, charset.mark.length)
  | none => (unmarked bytes, 0)

/-- The code points of a document. Faults in UTF-8 are placed from behind the byte
order mark, others from the first byte. -/
def decodeDocument (bytes : List UInt8) : Except CharsetError (List Point) :=
  let (charset, mark) := detect bytes
  charset.decode (if charset = utf8 then 0 else mark) (bytes.drop mark)

def name : Charset → String
  | utf8 => "utf-8"
  | utf16 true => "utf-16-be"
  | utf16 false => "utf-16-le"
  | utf32 true => "utf-32-be"
  | utf32 false => "utf-32-le"

end Charset

def CharsetFault.message : CharsetFault → String
  | utf8 .start => "invalid start byte"
  | utf8 .continuation => "invalid continuation byte"
  | utf8 .end => "unexpected end of data"
  | truncated => "truncated data"
  | beyondUnicode => "code point not in range(0x110000)"

def CharsetError.message (e : CharsetError) : String :=
  let place :=
    if e.size = 1 then
      "byte 0x" ++ String.ofList (hexLower 2 e.byte.toNat) ++ " in position " ++
        toString e.position
    else
      "bytes in position " ++ toString e.position ++ "-" ++
        toString (e.position + e.size - 1)
  "'" ++ e.charset.name ++ "' codec can't decode " ++ place ++ ": " ++ e.fault.message

end LakeAdmin.Text
