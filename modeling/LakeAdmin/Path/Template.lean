import LakeAdmin.Path.Field
import LakeAdmin.Text.Split

/-!
Templates of paths: text with fields in braces, which stand for values by their names.
A brace that is text is written twice. A field may say how its value is laid out.
-/

namespace LakeAdmin.Path

open Text

inductive TemplateFault where
  | singleClose
  | singleOpen
  | unclosedField
  | openInName
  | conversionMissing
  | colonExpected
  | unclosedLayout
  | unknownConversion (c : Char)
  | nestedTooDeep
  | unknownName (name : String)
  | noPosition (index : Nat)
  | layout (fault : LayoutFault)
  deriving DecidableEq, Repr

def TemplateFault.message : TemplateFault → String
  | singleClose => "Single '\x7d' encountered in format string"
  | singleOpen => "Single '\x7b' encountered in format string"
  | unclosedField => "expected '\x7d' before end of string"
  | openInName => "unexpected '\x7b' in field name"
  | conversionMissing => "end of string while looking for conversion specifier"
  | colonExpected => "expected ':' after conversion specifier"
  | unclosedLayout => "unmatched '\x7b' in format spec"
  | unknownConversion c => "Unknown conversion specifier " ++ String.singleton c
  | nestedTooDeep => "Max string recursion exceeded"
  | unknownName name => Quoted.encode name
  | noPosition index =>
    "Replacement index " ++ toString index ++ " out of range for positional args tuple"
  | layout fault => fault.message

inductive Piece where
  | literal (text : List Char)
  | field (name : String) (conversion : Option Char) (layout : List Char)
  deriving DecidableEq, Repr

abbrev Template := List Piece

/-- Takes the name of a field off the front, with the mark behind it. A bracket in a
name reaches to the closing one. -/
def cutName (inBracket : Bool) : List Char → Except TemplateFault (List Char × Char × List Char)
  | [] => .error .unclosedField
  | c :: rest =>
    if inBracket then
      (cutName (c ≠ ']') rest).map fun (name, mark, after) => (c :: name, mark, after)
    else if c = '\x7b' then .error .openInName
    else if c = '\x7d' ∨ c = ':' ∨ c = '!' then .ok ([], c, rest)
    else (cutName (c = '[') rest).map fun (name, mark, after) => (c :: name, mark, after)

/-- Takes the layout of a field off the front, to the brace that closes the field. -/
def cutLayout (depth : Nat) : List Char → Except TemplateFault (List Char × List Char)
  | [] => .error .unclosedLayout
  | c :: rest =>
    if c = '\x7d' ∧ depth = 0 then .ok ([], rest)
    else
      let depth := if c = '\x7b' then depth + 1 else if c = '\x7d' then depth - 1 else depth
      (cutLayout depth rest).map fun (layout, after) => (c :: layout, after)

def cutField (l : List Char) : Except TemplateFault (Piece × List Char) := do
  let (name, mark, rest) ← cutName false l
  let name := String.ofList name
  if mark = '\x7d' then return (.field name none [], rest)
  else if mark = ':' then
    let (layout, rest) ← cutLayout 0 rest
    return (.field name none layout, rest)
  else
    match rest with
    | [] => throw .conversionMissing
    | [_] => throw .unclosedLayout
    | conversion :: next :: rest =>
      if next = '\x7d' then return (.field name (some conversion) [], rest)
      else if next = ':' then
        let (layout, rest) ← cutLayout 0 rest
        return (.field name (some conversion) layout, rest)
      else throw .colonExpected

def isBrace (c : Char) : Bool := c == '\x7b' || c == '\x7d'

/-- The parts of a template. Literal text ends at every brace, doubled or not. -/
def Template.ofText (l : List Char) : Except TemplateFault Template :=
  let text := l.takeWhile fun c => !isBrace c
  match _split : l.dropWhile fun c => !isBrace c with
  | [] => .ok (if text.isEmpty then [] else [.literal text])
  | brace :: rest =>
    if rest.head? = some brace then do
      let others ← ofText (rest.drop 1)
      return .literal (text ++ [brace]) :: others
    else if brace = '\x7d' then .error .singleClose
    else if rest.isEmpty then .error .singleOpen
    else do
      let (field, after) ← cutField rest
      if _shorter : after.length < l.length then
        let others ← ofText after
        return .literal text :: field :: others
      else return [.literal text, field]
termination_by l.length
decreasing_by
  · have h := (List.dropWhile_sublist (l := l) fun c => !isBrace c).length_le
    rw [_split] at h
    simp only [List.length_cons] at h
    simp only [List.length_drop]
    omega
  · exact _shorter

def Template.names (template : Template) : List String :=
  template.filterMap fun
    | .literal _ => none
    | .field name _ _ => if name = "" then none else some name

def convert (conversion : Option Char) (value : String) : Except TemplateFault String :=
  match conversion with
  | none => .ok value
  | some 's' => .ok value
  | some 'r' => .ok (Quoted.encode value)
  | some 'a' => .ok (Quoted.encode value)
  | some c => .error (.unknownConversion c)

/-- The value of a name. A field without a name, or with a number, asks for a value
by position, and there is none. -/
def valueOf (lookUp : String → Option String) (name : String) : Except TemplateFault String :=
  let key := String.ofList (name.toList.takeWhile fun c => c ≠ '.' && c ≠ '[')
  if key.toList.all Char.isDigit then .error (.noPosition (key.toNat?.getD 0))
  else
    match lookUp key with
    | some value => .ok value
    | none => .error (.unknownName key)

/-- The text of a layout, in which fields may stand for values once more. -/
def fillLayout (lookUp : String → Option String) (layout : List Char) :
    Except TemplateFault String :=
  if !layout.contains '\x7b' then .ok (String.ofList layout)
  else do
    let pieces ← Template.ofText layout
    let texts ← pieces.mapM fun piece =>
      match piece with
      | .literal text => pure (String.ofList text)
      | .field name conversion inner => do
        let value ← convert conversion (← valueOf lookUp name)
        if inner.contains '\x7b' then throw .nestedTooDeep
        match layOut (String.ofList inner) value with
        | .ok text => pure text
        | .error fault => throw (.layout fault)
    return String.join texts

def fillPiece (lookUp : String → Option String) : Piece → Except TemplateFault String
  | .literal text => .ok (String.ofList text)
  | .field name conversion layout => do
    let value ← valueOf lookUp name
    let value ← convert conversion value
    let layout ← fillLayout lookUp layout
    match layOut layout value with
    | .ok text => return text
    | .error fault => throw (.layout fault)

def Template.fill (lookUp : String → Option String) (template : Template) :
    Except TemplateFault String := do
  let texts ← template.mapM (fillPiece lookUp)
  return String.join texts

/-! ## Paths of segments -/

/-- A segment of a path: fixed, or the value of a name. -/
inductive Segment where
  | fixed (text : String)
  | named (name : String)
  deriving DecidableEq, Repr

def Segment.piece : Segment → Piece
  | fixed text => .literal text.toList
  | named name => .field name none []

/-- The template of segments with slashes between them. -/
def Template.ofSegments (segments : List Segment) : Template :=
  (segments.map Segment.piece).intersperse (.literal ['/'])

end LakeAdmin.Path
