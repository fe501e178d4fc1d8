import LakeAdmin.Numeric.Binary64

/-!
The shortest decimal text that reads back as a given double: the fewest
significant digits that round to it, and of those the nearest to it. The text is
positional for decimal exponents from -4 to 15 and scientific outside them.
-/

namespace LakeAdmin.Binary64

/-- A decimal number `significand * 10 ^ exponent`. -/
structure Decimal where
  significand : Nat
  exponent : Int
  deriving DecidableEq, Repr, Inhabited

def digitCount (n : Nat) : Nat := (Nat.toDigits 10 n).length

/-- The exponent of the leading decimal digit of `units` units, for `0 < units`. -/
def leadingExponent (units : Nat) : Int :=
  if one ≤ units then digitCount (units / one) - 1
  else -(digitCount ((one - 1) / units) : Int)

/-- `units * 10 ^ -exponent / one` as a fraction, which measures the number in
steps of `10 ^ exponent`. -/
def inSteps (units : Nat) (exponent : Int) : Nat × Nat :=
  if 0 ≤ exponent then (units, one * Nat.pow 10 exponent.toNat)
  else (units * Nat.pow 10 (-exponent).toNat, one)

/-- Whether a decimal rounds to the number of the given units. -/
def readsBack (units : Nat) (d : Decimal) : Bool :=
  ofDecimal false d.significand d.exponent == finite units

/-- The nearest decimal of `count` digits that reads back, if there is one. Only
the two grid points next to the number have to be tried. -/
def withDigits? (units count : Nat) : Option Decimal :=
  let exponent := leadingExponent units - (count - 1 : Nat)
  let (num, den) := inSteps units exponent
  let below := num / den
  let low : Decimal := ⟨below, exponent⟩
  let high : Decimal := ⟨below + 1, exponent⟩
  if num % den = 0 then some low
  else
    match readsBack units low, readsBack units high with
    | true, true =>
      let twice := 2 * (num % den)
      if twice < den ∨ (twice = den ∧ below % 2 = 0) then some low else some high
    | true, false => some low
    | false, true => some high
    | false, false => none

/-- The decimal with the fewest digits that reads back as `units` units. -/
def shortest (units : Nat) : Decimal :=
  ((List.range 17).findSome? fun i => withDigits? units (i + 1)).getD ⟨units, 0⟩

/-- The significand without its trailing zeros, which move into the exponent. -/
def Decimal.trim (d : Decimal) : Decimal :=
  let zeros := ((Nat.toDigits 10 d.significand).reverse.takeWhile (· = '0')).length
  ⟨d.significand / Nat.pow 10 zeros, d.exponent + zeros⟩

def Decimal.layout (d : Decimal) : String :=
  let digits := Nat.toDigits 10 d.significand
  let point : Int := d.exponent + digits.length
  if -4 < point ∧ point ≤ 16 then
    if point ≤ 0 then
      "0." ++ String.ofList (List.replicate (-point).toNat '0' ++ digits)
    else if digits.length ≤ point.toNat then
      String.ofList (digits ++ List.replicate (point.toNat - digits.length) '0') ++ ".0"
    else
      String.ofList (digits.take point.toNat) ++ "." ++ String.ofList (digits.drop point.toNat)
  else
    let mantissa := String.ofList (digits.take 1) ++
      (if digits.length ≤ 1 then "" else "." ++ String.ofList (digits.drop 1))
    let power := point - 1
    let size := Nat.toDigits 10 power.natAbs
    let padded := if size.length < 2 then '0' :: size else size
    mantissa ++ (if power < 0 then "e-" else "e+") ++ String.ofList padded

def toText : Binary64 → String
  | finite n =>
    if n = 0 then "0.0"
    else (if n < 0 then "-" else "") ++ (shortest n.natAbs).trim.layout
  | negZero => "-0.0"
  | infinite negative => if negative then "-inf" else "inf"
  | nan => "nan"

end LakeAdmin.Binary64
