import LakeAdmin.Json.Basic

/-!
Equality of JSON values by what they denote: numbers by value, so that `1`, `1.0`
and `true` are equal, and objects whatever the order of their members.
-/

namespace LakeAdmin.Json

variable {τ : Type}

/-- Whether both values are numbers of one value. -/
def sameNumber (a b : Json τ) : Bool :=
  match a.number?, b.number? with
  | some x, some y => x.same y
  | _, _ => false

variable [DecidableEq τ]

mutual

/-- Whether two values denote the same. -/
def same : Json τ → Json τ → Bool
  | null, null => true
  | str s, str t => s == t
  | arr xs, arr ys => sameItems xs ys
  | obj xs, obj ys => xs.length == ys.length && sameMembers xs ys
  | bool b, other => sameNumber (bool b) other
  | int n, other => sameNumber (int n) other
  | float x, other => sameNumber (float x) other
  | _, _ => false

/-- Whether two lists agree member by member. -/
def sameItems : List (Json τ) → List (Json τ) → Bool
  | [], [] => true
  | x :: xs, y :: ys => same x y && sameItems xs ys
  | _, _ => false

def sameMembers : List (τ × Json τ) → List (τ × Json τ) → Bool
  | [], _ => true
  | (name, value) :: rest, members =>
    match Members.get? members name with
    | some other => same value other && sameMembers rest members
    | none => false

end

end LakeAdmin.Json
