import LakeAdmin.Text.Quoted

/-!
How a value is laid out where a template asks for more than the value itself: quoted,
cut to a number of characters, or filled up to a width. The layout is written as fill
and alignment, width, and a precision behind a point.
-/

namespace LakeAdmin.Path

open Text

/-- Where a text stands in a wider field. -/
inductive Alignment where
  | left
  | right
  | center
  | inside
  deriving DecidableEq, Repr

inductive LayoutFault where
  | sign
  | space
  | negativeZero
  | alternate
  | inside
  | comma
  | underscore
  | bothSeparators
  | noPrecision
  | tooManyDigits
  | unknownCode (code : Char)
  | unreadable (layout : String)
  deriving DecidableEq, Repr

def LayoutFault.message : LayoutFault → String
  | sign => "Sign not allowed in string format specifier"
  | space => "Space not allowed in string format specifier"
  | negativeZero => "Negative zero coercion (z) not allowed in string format specifier"
  | alternate => "Alternate form (#) not allowed in string format specifier"
  | inside => "'=' alignment not allowed in string format specifier"
  | comma => "Cannot specify ',' with 's'."
  | underscore => "Cannot specify '_' with 's'."
  | bothSeparators => "Cannot specify both ',' and '_'."
  | noPrecision => "Format specifier missing precision"
  | tooManyDigits => "Too many decimal digits in format string"
  | unknownCode code =>
    "Unknown format code '" ++ String.singleton code ++ "' for object of type 'str'"
  | unreadable layout =>
    "Invalid format specifier '" ++ layout ++ "' for object of type 'str'"

def alignment? : Char → Option Alignment
  | '<' => some .left
  | '>' => some .right
  | '^' => some .center
  | '=' => some .inside
  | _ => none

/-- Takes fill and alignment off the front of a layout. -/
def cutAlignment (l : List Char) : Option Char × Option Alignment × List Char :=
  match l with
  | fill :: mark :: rest =>
    match alignment? mark with
    | some alignment => (some fill, some alignment, rest)
    | none =>
      match alignment? fill with
      | some alignment => (none, some alignment, mark :: rest)
      | none => (none, none, l)
  | [mark] =>
    match alignment? mark with
    | some alignment => (none, some alignment, [])
    | none => (none, none, l)
  | [] => (none, none, [])

/-- Takes a character off the front, if it is one of the given. -/
def cutMark (marks : List Char) : List Char → Option Char × List Char
  | [] => (none, [])
  | c :: rest => if marks.contains c then (some c, rest) else (none, c :: rest)

/-- The largest width and precision. -/
def widthLimit : Nat := 0x7FFFFFFFFFFFFFFF

/-- Takes a number off the front; there may be none. -/
def cutNumber (l : List Char) : Except LayoutFault (Option Nat × List Char) :=
  let digits := l.takeWhile fun c => (digit? c).isSome
  let n := ofDigits 10 (digits.filterMap digit?)
  if digits.isEmpty then .ok (none, l)
  else if widthLimit < n then .error .tooManyDigits
  else .ok (some n, l.drop digits.length)

/-- A text in the middle of fill characters. -/
def pad (fill : Char) (alignment : Alignment) (width : Nat) (l : List Char) : List Char :=
  let room := width - l.length
  let before := match alignment with
    | .left => 0
    | .right => room
    | .center => room / 2
    | .inside => room
  List.replicate before fill ++ l ++ List.replicate (room - before) fill

def layOut (layout : String) (text : String) : Except LayoutFault String := do
  if layout = "" then return text
  let (fill, alignment, rest) := cutAlignment layout.toList
  let (sign, rest) := cutMark ['+', '-', ' '] rest
  let (negativeZero, rest) := cutMark ['z'] rest
  let (alternate, rest) := cutMark ['#'] rest
  let (zero, rest) := if fill.isSome then (none, rest) else cutMark ['0'] rest
  let (width, rest) ← cutNumber rest
  let (comma, rest) := cutMark [','] rest
  let (underscore, rest) := cutMark ['_'] rest
  if comma.isSome && underscore.isSome then throw .bothSeparators
  let (doubled, _) := cutMark [','] rest
  if underscore.isSome && doubled.isSome then throw .bothSeparators
  let (point, rest) := cutMark ['.'] rest
  let (precision, rest) ← if point.isSome then cutNumber rest else .ok (none, rest)
  if point.isSome && precision.isNone then throw .noPrecision
  let code ← match rest with
    | [] => .ok 's'
    | [code] => .ok code
    | _ => .error (.unreadable layout)
  if code ≠ 's' then throw (.unknownCode code)
  if comma.isSome then throw .comma
  if underscore.isSome then throw .underscore
  match sign with
  | some ' ' => throw .space
  | some _ => throw .sign
  | none => pure ()
  if negativeZero.isSome then throw .negativeZero
  if alternate.isSome then throw .alternate
  if alignment = some .inside then throw .inside
  let l := match precision with
    | some n => text.toList.take n
    | none => text.toList
  let fill := fill.getD (if zero.isSome then '0' else ' ')
  return String.ofList (pad fill (alignment.getD .left) (width.getD 0) l)

end LakeAdmin.Path
