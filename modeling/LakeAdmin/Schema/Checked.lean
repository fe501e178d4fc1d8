import LakeAdmin.Json.Basic
import LakeAdmin.Schema.Issue
import LakeAdmin.Text.Quoted

/-!
Checking values against a schema. The parts of a value are checked side by side, so
that the issues of all of them are reported together, in order. A rule over several
parts is looked at once each part has passed.
-/

namespace LakeAdmin.Schema

/-- A value that passed, or all that is wrong with it. -/
inductive Checked (α : Type u) where
  | valid (value : α)
  | invalid (issues : List Issue)
  deriving Repr, DecidableEq

namespace Checked

/-- Changes a value that passed. -/
def map (f : α → β) : Checked α → Checked β
  | valid a => valid (f a)
  | invalid issues => invalid issues

/-- Two checks side by side: the issues of the second follow those of the first. -/
def apply (f : Checked (α → β)) (x : Checked α) : Checked β :=
  match f, x with
  | valid g, valid a => valid (g a)
  | valid _, invalid issues => invalid issues
  | invalid issues, valid _ => invalid issues
  | invalid first, invalid second => invalid (first ++ second)

instance : Functor Checked := ⟨map, fun a => map fun _ => a⟩
instance : Applicative Checked where
  pure := valid
  seq f x := apply f (x ())

/-- A further check of a value that passed. -/
def andThen (x : Checked α) (f : α → Checked β) : Checked β :=
  match x with
  | valid a => f a
  | invalid issues => invalid issues

/-- A single issue at the place itself. -/
def fail (cause : Cause) : Checked α := invalid [⟨[], cause⟩]

/-- A check whose issues lie under a name. -/
def under (name : String) : Checked α → Checked α
  | valid a => valid a
  | invalid issues => invalid (issues.map fun issue => { issue with path := name :: issue.path })

def toOption : Checked α → Option α
  | valid a => some a
  | invalid _ => none

end Checked

abbrev Check (α : Type) (τ : Type := String) := Json τ → Checked α

namespace Check

variable {α τ : Type}

/-- Anything passes as it is. -/
def any : Check (Json τ) τ := .valid

/-- Null passes as nothing, all else goes through the check. -/
def nullable (check : Check α τ) : Check (Option α) τ
  | .null => .valid none
  | value => (check value).map some

/-- A value that has to keep a rule as well. -/
def keeping (rule : Rule) (holds : α → Bool) (check : Check α τ) : Check α τ := fun value =>
  (check value).andThen fun a => if holds a then .valid a else .fail (.broken rule)

def items (check : Check α τ) (index : Nat) : List (Json τ) → Checked (List α)
  | [] => .valid []
  | item :: rest =>
    List.cons <$> (check item).under (toString index) <*> items check (index + 1) rest

def list (check : Check α τ) : Check (List α) τ
  | .arr values => items check 0 values
  | _ => .fail .notList

/-- A list that holds something. -/
def filledList (check : Check α τ) : Check (List α) τ := fun value =>
  (list check value).andThen fun l => if l.isEmpty then .fail .emptyList else .valid l

/-- An object whose members make up a value of the named kind. -/
def object (kind : String) (read : Members τ → Checked α) : Check α τ
  | .obj members => read members
  | _ => .fail (.notModel kind)

variable [TextLike τ]

def entries (check : Check α τ) : Members τ → Checked (List (τ × α))
  | [] => .valid []
  | (name, value) :: rest =>
    List.cons <$> ((check value).under (TextLike.shown name)).map (name, ·) <*> entries check rest

/-- Named values of one kind. -/
def dictionary (check : Check α τ) : Check (List (τ × α)) τ
  | .obj members => entries check members
  | _ => .fail .notDictionary

variable [DecidableEq τ]

def required (members : Members τ) (name : τ) (check : Check α τ) : Checked α :=
  match members.get? name with
  | some value => (check value).under (TextLike.shown name)
  | none => (Checked.fail .missing).under (TextLike.shown name)

/-- A member that has a value of its own when it is not there. -/
def defaulted (members : Members τ) (name : τ) (default : α) (check : Check α τ) : Checked α :=
  match members.get? name with
  | some value => (check value).under (TextLike.shown name)
  | none => .valid default

/-- A member that may be null or not there. -/
def optional (members : Members τ) (name : τ) (check : Check α τ) : Checked (Option α) :=
  defaulted members name none (nullable check)

end Check

end LakeAdmin.Schema
