import LakeAdmin.Json.Reader
import LakeAdmin.Text.Charset

/-!
JSON documents as bytes: the encoding is detected, the bytes are decoded, and the
text is read. What goes wrong on the way has one message. To be nested too deep is
another matter than to be no document.
-/

namespace LakeAdmin.Json

open Text

/-- Why bytes are not a JSON document. -/
inductive Unreadable where
  | encoding (error : CharsetError)
  | text (error : SyntaxError) (line column : Nat)
  deriving DecidableEq, Repr

/-- Why bytes are not read: they are no document, or one that is nested too deep. -/
inductive ReadFault where
  | unreadable (error : Unreadable)
  | tooDeep (array : Bool)
  deriving DecidableEq, Repr

/-- The line and column, both from one, behind a stretch of text. -/
def place (before : List Point) : Nat × Nat :=
  (before.count (.char '\n') + 1, (before.reverse.takeWhile (· ≠ .char '\n')).length + 1)

/-- The value of a document with at most `levels` arrays and objects open at once. -/
def ofBytes (levels : Nat) (bytes : List UInt8) : Except ReadFault Document :=
  match Charset.decodeDocument bytes with
  | .error e => .error (.unreadable (.encoding e))
  | .ok text =>
    match read levels text with
    | .ok value => .ok value
    | .error (.fault e) =>
      let (line, column) := place (text.take e.position)
      .error (.unreadable (.text e line column))
    | .error (.tooDeep array) => .error (.tooDeep array)

def SyntaxFault.message : SyntaxFault → String
  | expectedValue => "Expecting value"
  | expectedName => "Expecting property name enclosed in double quotes"
  | expectedComma => "Expecting ',' delimiter"
  | expectedColon => "Expecting ':' delimiter"
  | extraData => "Extra data"
  | unterminatedText => "Unterminated string starting at"
  | controlCharacter => "Invalid control character at"
  | unknownEscape => "Invalid \\escape"
  | brokenUnicodeEscape => "Invalid \\uXXXX escape"
  | hugeInteger digits =>
    "Exceeds the limit (" ++ toString Literal.digitLimit ++
      " digits) for integer string conversion: value has " ++ toString digits ++
      " digits; use sys.set_int_max_str_digits() to increase the limit"

def Unreadable.message : Unreadable → String
  | encoding e => e.message
  | text ⟨.hugeInteger digits, _⟩ _ _ => (SyntaxFault.hugeInteger digits).message
  | text e line column =>
    e.fault.message ++ ": line " ++ toString line ++ " column " ++ toString column ++
      " (char " ++ toString e.position ++ ")"

def ReadFault.message : ReadFault → String
  | unreadable e => e.message
  | tooDeep array =>
    "maximum recursion depth exceeded while decoding a JSON " ++
      (if array then "array" else "object") ++ " from a unicode string"

end LakeAdmin.Json
