/-!
Double precision numbers as exact values. Every finite double is a whole
multiple of the least positive one, `2 ^ -1074`, so a finite number is held as
the integer that counts those units. Sums and comparisons are then exact
integer work, and `round` is the only place where digits are lost.
-/

namespace LakeAdmin

/-- A double precision number. `finite n` is the number `n * 2 ^ -1074`. -/
inductive Binary64 where
  | finite (units : Int)
  | negZero
  | infinite (negative : Bool)
  | nan
  deriving DecidableEq, Repr, Inhabited

namespace Binary64

/-- How many units make up the number one. -/
def one : Nat := Nat.pow 2 1074

/-- The least magnitude, in units, that is too large to be finite. -/
def limit : Nat := Nat.pow 2 (1024 + 1074)

def bitLength (n : Nat) : Nat :=
  if n = 0 then 0 else n.log2 + 1

/-- The nearest whole number to `num / den`; a half goes to the even neighbour. -/
def roundDiv (num den : Nat) : Nat :=
  let quotient := num / den
  let twice := 2 * (num % den)
  if den < twice ∨ (twice = den ∧ quotient % 2 = 1) then quotient + 1 else quotient

/-- The nearest multiple of a power of two to `num / den` that has at most 53
significant binary digits. -/
def roundMagnitude (num den : Nat) : Nat :=
  let dropped := Nat.pow 2 (bitLength (num / den) - 53)
  roundDiv num (den * dropped) * dropped

/-- The double nearest to `num / den` units, with the given sign. -/
def ofMagnitude (negative : Bool) (num den : Nat) : Binary64 :=
  let magnitude := roundMagnitude num den
  if limit ≤ magnitude then infinite negative
  else if magnitude = 0 then (if negative then negZero else finite 0)
  else finite (if negative then -(magnitude : Int) else magnitude)

/-- The double nearest to `units` units. -/
def round (units : Int) : Binary64 :=
  ofMagnitude (units < 0) units.natAbs 1

def ofInt (n : Int) : Binary64 := round (n * one)

instance : OfNat Binary64 n := ⟨ofInt n⟩

/-- Decimal exponents beyond this bound decide the result by themselves: a
literal with fewer digits than the bound overflows or vanishes. -/
def exponentBound : Nat := 400

def ofDecimal (negative : Bool) (significand : Nat) (exponent : Int) : Binary64 :=
  if significand = 0 then (if negative then negZero else finite 0)
  else
    let digits := (Nat.toDigits 10 significand).length
    if exponentBound < exponent + digits then infinite negative
    else if exponent + digits < -exponentBound then (if negative then negZero else finite 0)
    else if 0 ≤ exponent then
      ofMagnitude negative (significand * Nat.pow 10 exponent.toNat * one) 1
    else
      ofMagnitude negative (significand * one) (Nat.pow 10 (-exponent).toNat)

def units? : Binary64 → Option Int
  | finite n => some n
  | negZero => some 0
  | infinite _ => none
  | nan => none

def isFinite (x : Binary64) : Bool := x.units?.isSome

/-- The sum, rounded to the nearest double. -/
def add : Binary64 → Binary64 → Binary64
  | nan, _ => nan
  | _, nan => nan
  | infinite s, infinite t => if s = t then infinite s else nan
  | infinite s, _ => infinite s
  | _, infinite t => infinite t
  | negZero, negZero => negZero
  | finite m, finite n => round (m + n)
  | finite m, negZero => finite m
  | negZero, finite n => finite n

def neg : Binary64 → Binary64
  | finite n => if n = 0 then negZero else finite (-n)
  | negZero => finite 0
  | infinite s => infinite (!s)
  | nan => nan

instance : Add Binary64 := ⟨add⟩
instance : Neg Binary64 := ⟨neg⟩
instance : Sub Binary64 := ⟨fun x y => x + -y⟩

/-- Whether `x` is less than `y`. Nothing is less or greater than `nan`. -/
def lt : Binary64 → Binary64 → Bool
  | nan, _ => false
  | _, nan => false
  | infinite s, infinite t => s && !t
  | infinite s, _ => s
  | _, infinite t => !t
  | x, y => decide (x.units?.getD 0 < y.units?.getD 0)

/-- Whether two numbers have one value. Both zeros have the value zero, and the
undefined number is taken for equal to itself. -/
def same : Binary64 → Binary64 → Bool
  | nan, nan => true
  | infinite s, infinite t => s == t
  | x, y =>
    match x.units?, y.units? with
    | some m, some n => m == n
    | _, _ => false

/-- The integer part, the fraction cut off; `none` without a finite value. -/
def truncate? (x : Binary64) : Option Int :=
  x.units?.map (Int.tdiv · one)

def toInt? (x : Binary64) : Option Int :=
  x.units?.bind fun n => if n % one = 0 then some (n / one) else none

/-- The larger of zero and `x`. Zeros, negative numbers and `nan` give zero. -/
def clampToZero (x : Binary64) : Binary64 :=
  if lt 0 x then x else 0

end Binary64

end LakeAdmin
