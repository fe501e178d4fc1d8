import LakeAdmin.Json.Basic
import LakeAdmin.Numeric.Literal
import LakeAdmin.Text.Digit

/-!
Reading JSON text. The reader goes through the code points once. It holds what it
expects next and the arrays and objects still open, and it stops at the first code
point that does not fit, with the cause and the place, and where more would be open than
it has room for. Beside the numbers of the standard it takes `NaN`, `Infinity` and
`-Infinity`.
-/

namespace LakeAdmin.Json

inductive SyntaxFault where
  | expectedValue
  | expectedName
  | expectedComma
  | expectedColon
  | extraData
  | unterminatedText
  | controlCharacter
  | unknownEscape
  | brokenUnicodeEscape
  | hugeInteger (digits : Nat)
  deriving DecidableEq, Repr

structure SyntaxError where
  fault : SyntaxFault
  position : Nat
  deriving DecidableEq, Repr

/-- Why the reader stops early. -/
inductive Stop where
  | fault (error : SyntaxError)
  | tooDeep (array : Bool)
  deriving DecidableEq, Repr

namespace Reader

open Text

/-- Blanks between the parts of a document. -/
def isSpace (c : Point) : Bool :=
  c == ' ' || c == '\t' || c == '\n' || c == '\r'

/-! ## Texts -/

def hex? : Point → Option Nat
  | .char c => hexDigit? c
  | .lone _ => none

def fourHex? : List Point → Option Nat
  | a :: b :: c :: d :: _ => do
    return ofDigits 16 [← hex? a, ← hex? b, ← hex? c, ← hex? d]
  | _ => none

/-- The character that a letter after a backslash stands for. -/
def escape? : Point → Option Char
  | '"' => some '"'
  | '\\' => some '\\'
  | '/' => some '/'
  | 'b' => some '\x08'
  | 'f' => some '\x0c'
  | 'n' => some '\n'
  | 'r' => some '\r'
  | 't' => some '\t'
  | _ => none

/-- The code point after `\u`, at `position`, and how many code points its digits
take. The digits have to be followed by something. A surrogate whose partner is not
written behind it in the same way stands on its own. -/
def unicodeEscape (position : Nat) (l : List Point) : Except SyntaxError (Point × Nat) :=
  if l.length ≤ 4 then .error ⟨.brokenUnicodeEscape, position⟩
  else
    match fourHex? l with
    | none => .error ⟨.brokenUnicodeEscape, position⟩
    | some unit =>
      match Point.isHigh unit && 10 < l.length, l.drop 4 with
      | true, .char '\\' :: .char 'u' :: rest =>
        match fourHex? rest with
        | none => .error ⟨.brokenUnicodeEscape, position + 6⟩
        | some second =>
          if Point.isLow second then .ok (.ofPair unit second, 10) else .ok (.ofCode unit, 4)
      | _, _ => .ok (.ofCode unit, 4)

/-- The code points of a text that opened at `start`, up to its closing quote, and
the place behind that quote. The next `skip` code points are already read. -/
def text (start position skip : Nat) : List Point → Except SyntaxError (List Point × Nat)
  | [] => .error ⟨.unterminatedText, start⟩
  | c :: rest =>
    match skip with
    | skip + 1 => text start (position + 1) skip rest
    | 0 =>
      if c = '"' then .ok ([], position + 1)
      else if c = '\\' then
        match rest with
        | [] => .error ⟨.unterminatedText, start⟩
        | .char 'u' :: digits => do
          let (read, size) ← unicodeEscape (position + 1) digits
          let (others, finish) ← text start (position + 1) (size + 1) rest
          return (read :: others, finish)
        | letter :: _ =>
          match escape? letter with
          | none => .error ⟨.unknownEscape, position⟩
          | some read => do
            let (others, finish) ← text start (position + 1) 1 rest
            return (.char read :: others, finish)
      else if c.code < 0x20 then .error ⟨.controlCharacter, position⟩
      else do
        let (others, finish) ← text start (position + 1) 0 rest
        return (c :: others, finish)

/-! ## Numbers and words -/

/-- The value of the ASCII digits of a list. -/
def decimal (l : List Char) : Nat :=
  ofDigits 10 (l.filterMap asciiDigit?)

/-- The fraction at the front of a list, with its point. -/
def fraction (l : List Char) : List Char :=
  match l with
  | '.' :: rest =>
    let digits := rest.takeWhile Char.isDigit
    if digits.isEmpty then [] else '.' :: digits
  | _ => []

def exponent (l : List Char) : Option (Nat × Int) :=
  match l with
  | c :: rest =>
    if c = 'e' ∨ c = 'E' then
      let (signSize, negative, body) := match rest with
        | '-' :: body => (1, true, body)
        | '+' :: body => (1, false, body)
        | body => (0, false, body)
      let digits := body.takeWhile Char.isDigit
      if digits.isEmpty then none
      else
        let value : Int := decimal digits
        some (1 + signSize + digits.length, if negative then -value else value)
    else none
  | [] => none

/-- The number at the front of a list and its size, or the count of its digits
when there are too many. -/
def number? (l : List Char) : Option (Except Nat Document × Nat) :=
  let negative := l.head? = some '-'
  let body := if negative then l.drop 1 else l
  let whole := match body with
    | '0' :: _ => ['0']
    | _ => body.takeWhile Char.isDigit
  if whole.isEmpty then none
  else
    let signSize := if negative then 1 else 0
    let places := fraction (body.drop whole.length)
    match exponent (body.drop (whole.length + places.length)), places with
    | none, [] =>
      let size := signSize + whole.length
      if Literal.digitLimit < whole.length then some (.error whole.length, size)
      else some (.ok (.int (if negative then -(decimal whole : Int) else decimal whole)), size)
    | power, _ =>
      let (powerSize, value) := power.getD (0, 0)
      let scale := value - (places.length - 1 : Nat)
      some (.ok (.float (.ofDecimal negative (decimal (whole ++ places)) scale)),
        signSize + whole.length + places.length + powerSize)

/-- The words that are values. -/
def words : List (String × Document) := [
  ("null", .null), ("true", .bool true), ("false", .bool false), ("NaN", .float .nan),
  ("Infinity", .float (.infinite false)), ("-Infinity", .float (.infinite true))]

/-- The characters at the front of a list that numbers and words are made of. -/
def token : List Point → List Char
  | .char c :: rest =>
    if c.isAlphanum || c == '-' || c == '+' || c == '.' then c :: token rest else []
  | _ => []

/-- The value at the front of a list at `position`, if it is neither an array nor
an object, and its size. -/
def scalar (position : Nat) (l : List Point) : Except SyntaxError (Document × Nat) :=
  match l with
  | .char '"' :: rest => do
    let (read, finish) ← text position (position + 1) 0 rest
    return (.str (.ofPoints read), finish - position)
  | _ =>
    let front := token l
    match words.find? fun word => word.1.toList.isPrefixOf front with
    | some (word, value) => .ok (value, word.length)
    | none =>
      match number? front with
      | some (.ok value, size) => .ok (value, size)
      | some (.error digits, _) => .error ⟨.hugeInteger digits, position⟩
      | none => .error ⟨.expectedValue, position⟩

/-! ## Documents -/

/-- An array or object still open, with what it holds so far, last first. An
object is open with the name whose value is being read. -/
inductive Frame where
  | array (items : List Document)
  | object (members : Members Wide) (name : Wide)

/-- What is expected next. Names carry the members before them, last first. -/
inductive Expected where
  | value
  | firstItem
  | firstName
  | name (members : Members Wide)
  | colon (members : Members Wide) (name : Wide)
  | rest (value : Document)

/-- The state of the reader between two parts of a document. -/
structure State where
  expected : Expected
  stack : List Frame

/-- The fault of a text that ends or goes on wrongly in this state. -/
def State.fault (s : State) : SyntaxFault :=
  match s.expected, s.stack with
  | .value, _ => .expectedValue
  | .firstItem, _ => .expectedValue
  | .firstName, _ => .expectedName
  | .name _, _ => .expectedName
  | .colon _ _, _ => .expectedColon
  | .rest _, [] => .extraData
  | .rest _, _ :: _ => .expectedComma

/-- Opens an array or an object, if there is room for one more. -/
def opened (levels : Nat) (array : Bool) (stack : List Frame) : Except Stop (State × Nat) :=
  if levels ≤ stack.length then .error (.tooDeep array)
  else if array then .ok (⟨.firstItem, .array [] :: stack⟩, 0)
  else .ok (⟨.firstName, stack⟩, 0)

/-- Reads the beginning of a value: all of it, or the bracket that opens it. -/
def startValue (levels : Nat) (stack : List Frame) (position : Nat) (c : Point)
    (rest : List Point) : Except Stop (State × Nat) :=
  if c = '[' then opened levels true stack
  else if c = '{' then opened levels false stack
  else do
    let (value, size) ← (scalar position (c :: rest)).mapError .fault
    return (⟨.rest value, stack⟩, size - 1)

def startName (members : Members Wide) (stack : List Frame) (position : Nat) (c : Point)
    (rest : List Point) : Except Stop (State × Nat) :=
  if c = '"' then do
    let (name, finish) ← (text position (position + 1) 0 rest).mapError .fault
    return (⟨.colon members (.ofPoints name), stack⟩, finish - position - 1)
  else .error (.fault ⟨.expectedName, position⟩)

/-- One step at the code point `c`, which is followed by `rest`: the new state and
how many of the following code points belong to what was read. -/
def step (levels : Nat) (s : State) (position : Nat) (c : Point) (rest : List Point) :
    Except Stop (State × Nat) :=
  if isSpace c then .ok (s, 0)
  else
    match s.expected, s.stack with
    | .value, stack => startValue levels stack position c rest
    | .firstItem, .array _ :: outer =>
      if c = ']' then .ok (⟨.rest (.arr []), outer⟩, 0)
      else startValue levels s.stack position c rest
    | .firstName, stack =>
      if c = '}' then .ok (⟨.rest (.obj []), stack⟩, 0)
      else startName [] stack position c rest
    | .name members, stack => startName members stack position c rest
    | .colon members name, stack =>
      if c = ':' then .ok (⟨.value, .object members name :: stack⟩, 0)
      else .error (.fault ⟨s.fault, position⟩)
    | .rest value, .array items :: outer =>
      if c = ']' then .ok (⟨.rest (.arr (value :: items).reverse), outer⟩, 0)
      else if c = ',' then .ok (⟨.value, .array (value :: items) :: outer⟩, 0)
      else .error (.fault ⟨s.fault, position⟩)
    | .rest value, .object members name :: outer =>
      if c = '}' then
        .ok (⟨.rest (.obj (Members.ofPairs ((name, value) :: members).reverse)), outer⟩, 0)
      else if c = ',' then .ok (⟨.name ((name, value) :: members), outer⟩, 0)
      else .error (.fault ⟨s.fault, position⟩)
    | _, _ => .error (.fault ⟨s.fault, position⟩)

/-- Reads on at `position`, the next `skip` code points being already read. -/
def run (levels : Nat) (s : State) (position skip : Nat) : List Point → Except Stop Document
  | [] =>
    match s.expected, s.stack with
    | .rest value, [] => .ok value
    | _, _ => .error (.fault ⟨s.fault, position⟩)
  | c :: rest =>
    match skip with
    | skip + 1 => run levels s (position + 1) skip rest
    | 0 => do
      let (next, skip) ← step levels s position c rest
      run levels next (position + 1) skip rest

end Reader

/-- The value of a JSON text with at most `levels` arrays and objects open at once. -/
def read (levels : Nat) (l : List Point) : Except Stop Document :=
  Reader.run levels ⟨.value, []⟩ 0 0 l

end LakeAdmin.Json
