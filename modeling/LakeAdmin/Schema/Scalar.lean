import LakeAdmin.Net.Ipv4
import LakeAdmin.Numeric.Literal
import LakeAdmin.Schema.Checked
import LakeAdmin.Text.LowerCase

/-!
Checks of single values. Numbers and truth values may come as texts, integers also
as truth values or as doubles without a fraction, and addresses as their numbers.
-/

namespace LakeAdmin.Schema.Check

variable {τ : Type}

def text : Check τ τ
  | .str s => .valid s
  | _ => .fail .notText

def filledText : Check String := fun value =>
  (text value).andThen fun s => if s = "" then .fail .emptyText else .valid s

/-- Integers that come as doubles lie between this bound and its negative. -/
def doubleLimit : Int := 0x8000000000000000

/-- The integer in a double. -/
def wholeDouble (x : Binary64) : Checked Int :=
  match x.units? with
  | none => .fail .notFinite
  | some _ =>
    match x.toInt? with
    | none => .fail .fractionalInteger
    | some n => if -doubleLimit < n ∧ n < doubleLimit then .valid n else .fail .hugeInteger

def integer : Check Int
  | .int n => .valid n
  | .bool b => .valid (if b then 1 else 0)
  | .float x => wholeDouble x
  | .str s =>
    if Literal.digitLimit < s.length then .fail .hugeInteger
    else
      match Literal.strictInt? s with
      | some n => .valid n
      | none => .fail .unreadableInteger
  | _ => .fail .notInteger

def atLeast (low : Int) (check : Check Int) : Check Int := fun value =>
  (check value).andThen fun n => if n < low then .fail (.belowMinimum low) else .valid n

def atMost (high : Int) (check : Check Int) : Check Int := fun value =>
  (check value).andThen fun n => if high < n then .fail (.aboveMaximum high) else .valid n

/-- The truth value that an integer stands for. Integers of more than 64 bits stand for
nothing. -/
def truthOfInt (n : Int) : Checked Bool :=
  if n = 0 then .valid false
  else if n = 1 then .valid true
  else if -doubleLimit ≤ n ∧ n < doubleLimit then .fail .unreadableTruth
  else .fail .notTruth

def truth : Check Bool
  | .bool b => .valid b
  | .int n => truthOfInt n
  | .float x =>
    match wholeDouble x with
    | .valid n => truthOfInt n
    | .invalid _ => .fail .notTruth
  | .str s =>
    let word := Text.lowerAscii s
    if ["0", "off", "f", "false", "n", "no"].contains word then .valid false
    else if ["1", "on", "t", "true", "y", "yes"].contains word then .valid true
    else .fail .unreadableTruth
  | _ => .fail .notTruth

/-- A double. An integer beyond all doubles is none. -/
def number : Check Binary64
  | .int n => if (Binary64.ofInt n).isFinite then .valid (.ofInt n) else .fail .notNumber
  | .bool b => .valid (if b then 1 else 0)
  | .float x => .valid x
  | .str s =>
    match Literal.strictDecimal? s with
    | some x => .valid x
    | none => .fail .unreadableNumber
  | _ => .fail .notNumber

def ipv4 : Check Ipv4
  | .str s => ofOption (Ipv4.ofText? s)
  | .int n => ofOption (Ipv4.ofInt? n)
  | .bool b => ofOption (Ipv4.ofInt? (if b then 1 else 0))
  | _ => .fail .notIpv4
where
  /-- An address, if there is one. -/
  ofOption : Option Ipv4 → Checked Ipv4
    | some address => .valid address
    | none => .fail .notIpv4

end LakeAdmin.Schema.Check
