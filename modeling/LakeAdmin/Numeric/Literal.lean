import LakeAdmin.Numeric.Binary64
import LakeAdmin.Text.Blank
import LakeAdmin.Text.Digit

/-!
Numbers written as text. A single underscore may stand between two digits of any
numeral. The strict integers of a schema know ASCII digits alone and may end in a
point and zeros; lenient integers and decimals take the digits of every script.
-/

namespace LakeAdmin.Literal

open Text

/-- The digits of a numeral in which single underscores may separate digits. -/
def digits? (digit : Char → Option Nat) : List Char → Option (List Nat)
  | [] => none
  | [c] => (digit c).map ([·])
  | c :: '_' :: rest => do
    let first ← digit c
    let others ← digits? digit rest
    return first :: others
  | c :: rest => do
    let first ← digit c
    let others ← digits? digit rest
    return first :: others

/-- Takes a leading sign off; `true` stands for a minus sign. -/
def sign : List Char → Bool × List Char
  | '-' :: rest => (true, rest)
  | '+' :: rest => (false, rest)
  | rest => (false, rest)

def signed (negative : Bool) (n : Nat) : Int := if negative then -n else n

/-- The integer a schema reads from a text: ASCII digits, a sign before them and
a point with zeros after them being optional. -/
def strictInt? (s : String) : Option Int := do
  let (negative, body) := sign (strip isWhite s.toList)
  let whole := body.takeWhile (· ≠ '.')
  let fraction := body.dropWhile (· ≠ '.')
  let digits ← digits? asciiDigit? whole
  guard (fraction.isEmpty || (2 ≤ fraction.length && (fraction.drop 1).all (· = '0')))
  return signed negative (ofDigits 10 digits)

/-- The sign and digits of an integer numeral in any script. -/
def lenientDigits? (s : String) : Option (Bool × List Nat) := do
  let (negative, body) := sign (strip isWhite s.toList)
  let digits ← digits? digit? body
  return (negative, digits)

/-- Numerals with more digits than this are not read as integers. -/
def digitLimit : Nat := 4300

/-- The integer that a numeral in any script denotes. -/
def lenientInt? (s : String) : Option Int := do
  let (negative, digits) ← lenientDigits? s
  guard (digits.length ≤ digitLimit)
  return signed negative (ofDigits 10 digits)

/-- A part of a decimal numeral that may be empty. -/
def optionalDigits? (digit : Char → Option Nat) (l : List Char) : Option (List Nat) :=
  if l.isEmpty then some [] else digits? digit l

/-- A decimal numeral without its sign, as a double. -/
def magnitude? (digit : Char → Option Nat) (negative : Bool) (body : List Char) :
    Option Binary64 :=
  let word := (String.ofList body).map Char.toLower
  if word = "inf" ∨ word = "infinity" then some (.infinite negative)
  else if word = "nan" then some .nan
  else do
    let mantissa := body.takeWhile fun c => c ≠ 'e' && c ≠ 'E'
    let tail := body.dropWhile fun c => c ≠ 'e' && c ≠ 'E'
    let whole ← optionalDigits? digit (mantissa.takeWhile (· ≠ '.'))
    let fraction ← optionalDigits? digit ((mantissa.dropWhile (· ≠ '.')).drop 1)
    guard (!(whole.isEmpty && fraction.isEmpty))
    let exponent ← match tail with
      | [] => some 0
      | _ :: power =>
        let (below, numeral) := sign power
        (digits? digit numeral).map fun l => signed below (ofDigits 10 l)
    return .ofDecimal negative (ofDigits 10 (whole ++ fraction)) (exponent - fraction.length)

/-- The double that a decimal text denotes, white space around it aside. -/
def decimal? (digit : Char → Option Nat) (s : String) : Option Binary64 :=
  let (negative, body) := sign (strip isWhite s.toList)
  magnitude? digit negative body

/-- A decimal text in the digits of any script, as header values hold it. -/
def lenientDecimal? : String → Option Binary64 := decimal? digit?

/-- A decimal text of ASCII digits, as a schema reads it. -/
def strictDecimal? : String → Option Binary64 := decimal? asciiDigit?

end LakeAdmin.Literal
