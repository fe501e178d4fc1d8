import LakeAdmin.Text.Composition
import LakeAdmin.Text.Quoted
import LakeAdmin.Url.Label.Direction
import LakeAdmin.Url.Label.Joining
import LakeAdmin.Url.Label.Letter
import LakeAdmin.Url.Label.Script

/-!
Labels of host names outside ASCII. A label is a list of code points. It is composed,
has its hyphens inside, starts with no mark, holds letters and such signs as its other
code points allow, and can be read in one direction.
-/

namespace LakeAdmin.Url.Label

open Text

/-- Why a label cannot be read in one direction. -/
inductive DirectionFault where
  | unknown (position : Nat)
  | first
  | leftAmongRight (position : Nat)
  | rightAmongLeft (position : Nat)
  | mixedNumbers
  | ending
  deriving DecidableEq, Repr

/-- Why a text is no label. Positions count from one. -/
inductive LabelFault where
  | empty
  | tooLong
  | notComposed
  | hyphensInside
  | hyphenAtEnd
  | markInFront
  | codePoint (n position : Nat) (label : List Nat)
  | joiner (n position : Nat) (label : List Nat)
  | sign (n position : Nat) (label : List Nat)
  | direction (fault : DirectionFault) (label : List Nat)
  | codeEmpty
  | codeEndsInHyphen
  | codeUnreadable
  deriving DecidableEq, Repr

/-- A code point in hexadecimal digits. -/
def pointName (n : Nat) : String :=
  let digits := (Nat.toDigits 16 n).map Char.toUpper
  "U+" ++ String.ofList (List.replicate (4 - digits.length) '0' ++ digits)

def quoted (label : List Nat) : String := Quoted.encodePoints (label.map Point.ofCode)

def DirectionFault.message (label : List Nat) : DirectionFault → String
  | unknown position =>
    "Unknown directionality in label " ++ quoted label ++ " at position " ++
      toString position
  | first =>
    "First codepoint in label " ++ quoted label ++
      " must be directionality L, R or AL"
  | leftAmongRight position =>
    "Invalid direction for codepoint at position " ++ toString position ++
      " in a right-to-left label"
  | rightAmongLeft position =>
    "Invalid direction for codepoint at position " ++ toString position ++
      " in a left-to-right label"
  | mixedNumbers => "Can not mix numeral types in a right-to-left label"
  | ending => "Label ends with illegal codepoint directionality"

def LabelFault.message : LabelFault → String
  | empty => "Empty Label"
  | tooLong => "Label too long"
  | notComposed => "Label must be in Normalization Form C"
  | hyphensInside => "Label has disallowed hyphens in 3rd and 4th position"
  | hyphenAtEnd => "Label must not start or end with a hyphen"
  | markInFront => "Label begins with an illegal combining character"
  | codePoint n position label =>
    "Codepoint " ++ pointName n ++ " at position " ++ toString position ++ " of " ++
      quoted label ++ " not allowed"
  | joiner n position label =>
    "Unknown codepoint adjacent to joiner " ++ pointName n ++ " at position " ++
      toString position ++ " in " ++ quoted label
  | sign n position label =>
    "Codepoint " ++ pointName n ++ " not allowed at position " ++ toString position ++ " in " ++
      quoted label
  | direction fault label => fault.message label
  | codeEmpty => "Malformed A-label, no Punycode eligible content found"
  | codeEndsInHyphen => "A-label must not end with a hyphen"
  | codeUnreadable => "Invalid A-label"

/-! ## Code points in their places -/

/-- Whether a joiner may stand behind some code points, the last one first, and before
others. Behind the sign that takes a vowel both may stand; one of them may also stand
between letters that would join. -/
def joinerFits (n : Nat) (before after : List Nat) : Bool :=
  (before.head?.any fun m => combiningClass m = viramaClass) ||
    (n == 0x200C && (before.find? (!isTransparent ·)).any joinsNext &&
      (after.find? (!isTransparent ·)).any joinsPrevious)

/-- Whether a code point is a sign that calls for certain others beside it. -/
def isSign (n : Nat) : Bool :=
  [0xB7, 0x375, 0x5F3, 0x5F4, 0x30FB].contains n ||
    (0x660 ≤ n && n ≤ 0x669) || (0x6F0 ≤ n && n ≤ 0x6F9)

/-- Whether a sign may stand in a label behind some code points, the last one first, and
before others. -/
def signFits (label : List Nat) (n : Nat) (before after : List Nat) : Bool :=
  if n = 0xB7 then before.head? == some 0x6C && after.head? == some 0x6C
  else if n = 0x375 then after.head?.any isGreek
  else if n = 0x5F3 ∨ n = 0x5F4 then before.head?.any isHebrew
  else if n = 0x30FB then label.any fun m => m != 0x30FB && isJapanese m
  else if n < 0x66A then !label.any fun m => 0x6F0 ≤ m && m ≤ 0x6F9
  else !label.any fun m => 0x660 ≤ m && m ≤ 0x669

def checkPoints (label before : List Nat) : List Nat → Except LabelFault Unit
  | [] => .ok ()
  | n :: after =>
    let position := before.length + 1
    let fault :=
      if isLetter n then none
      else if isJoiner n then
        if !before.head?.any isUnknown && joinerFits n before after then none
        else some (.joiner n position label)
      else if isSign n then
        if signFits label n before after then none else some (.sign n position label)
      else some (.codePoint n position label)
    match fault with
    | some fault => .error fault
    | none => checkPoints label (n :: before) after

/-! ## Directions -/

/-- Whether text of a direction may end a label; what follows may be marks only. -/
def Direction.mayEnd (inRight : Bool) : Direction → Bool
  | .number => true
  | .left => !inRight
  | .right | .arabic | .arabicNumber => inRight
  | _ => false

/-- Whether a label of a direction may hold text of another. -/
def Direction.mayStand (inRight : Bool) : Direction → Bool
  | .left => !inRight
  | .right | .arabic | .arabicNumber => inRight
  | _ => true

/-- Checks the directions of a label from a position on. Of the two kinds of numbers
only one may stand in a label that is read from the right. -/
def checkFrom (inRight : Bool) (position : Nat) (ends : Bool) (numbers : Option Direction) :
    List Direction → Except DirectionFault Unit
  | [] => if ends then .ok () else .error .ending
  | d :: rest =>
    if !d.mayStand inRight then
      .error (if inRight then .leftAmongRight position else .rightAmongLeft position)
    else
      let ends := d.mayEnd inRight || (d == .mark && ends)
      if inRight && (d == .number || d == .arabicNumber) then
        if numbers.any (· != d) then .error .mixedNumbers
        else checkFrom inRight (position + 1) ends (some d) rest
      else checkFrom inRight (position + 1) ends numbers rest

/-- Checks the directions of a label. All goes from left to right unless something is
read from the right. -/
def checkDirections (label : List Nat) : Except DirectionFault Unit :=
  let directions := label.map direction?
  match directions.findIdx? (·.isNone) with
  | some index => .error (.unknown (index + 1))
  | none =>
    let directions := directions.filterMap id
    if directions.any (·.mayStand false == false) then
      match directions.head? with
      | some .left => checkFrom false 1 false none directions
      | some .right | some .arabic => checkFrom true 1 false none directions
      | _ => .error .first
    else .ok ()

/-! ## The whole label -/

def check (label : List Nat) : Except LabelFault Unit :=
  if label.isEmpty then .error .empty
  else if !isComposed label then .error .notComposed
  else if (label.drop 2).take 2 = [0x2D, 0x2D] then .error .hyphensInside
  else if label.head? = some 0x2D ∨ label.getLast? = some 0x2D then .error .hyphenAtEnd
  else if label.head?.any isMark then .error .markInFront
  else
    match checkPoints label [] label with
    | .error fault => .error fault
    | .ok () => (checkDirections label).mapError (.direction · label)

end LakeAdmin.Url.Label
