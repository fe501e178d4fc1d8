import LakeAdmin.Numeric.Binary64
import LakeAdmin.Text.Wide

/-!
JSON values. Integers and doubles are told apart, as `5` and `5.0` are different
documents. An object keeps its members in order and has each name once. The texts of
callers are of characters, and those of documents from elsewhere may be any.
-/

namespace LakeAdmin

/-- A JSON value with texts of one kind. -/
inductive Json (τ : Type := String) where
  | null
  | bool (b : Bool)
  | int (n : Int)
  | float (x : Binary64)
  | str (s : τ)
  | arr (items : List (Json τ))
  | obj (members : List (τ × Json τ))
  deriving Inhabited

abbrev Members (τ : Type := String) := List (τ × Json τ)

/-- A JSON value as it is read. -/
abbrev Document := Json Wide

variable {τ : Type}

namespace Members

/-- The members whose value is not null. -/
def present (members : Members τ) : Members τ :=
  members.filter fun member =>
    match member.2 with
    | .null => false
    | _ => true

variable [DecidableEq τ]

def get? (members : Members τ) (name : τ) : Option (Json τ) :=
  (members.find? (·.1 == name)).map (·.2)

def has (members : Members τ) (name : τ) : Bool :=
  members.any (·.1 == name)

/-- Gives a name a value: at its place if it is present, at the end if not. -/
def insert (name : τ) (value : Json τ) : Members τ → Members τ
  | [] => [(name, value)]
  | (other, old) :: rest =>
    if other == name then (name, value) :: rest else (other, old) :: insert name value rest

/-- The members that remain when each is inserted in turn: of a repeated name the
last value, at the place of the first. -/
def ofPairs (pairs : List (τ × Json τ)) : Members τ :=
  pairs.foldl (fun members pair => members.insert pair.1 pair.2) []

end Members

namespace Json

def isNull : Json τ → Bool
  | null => true
  | _ => false

/-- A text or null. -/
def ofText? : Option τ → Json τ
  | some s => str s
  | none => null

def ofInt? : Option Int → Json τ
  | some n => int n
  | none => null

/-- A number with its exact value; truth counts as one and falsity as zero. -/
def number? : Json τ → Option Binary64
  | bool b => some (.finite (if b then Binary64.one else 0))
  | int n => some (.finite (n * Binary64.one))
  | float x => some x
  | _ => none

end Json

end LakeAdmin
