import LakeAdmin.Json.Basic
import LakeAdmin.Numeric.Shortest
import LakeAdmin.Text.Quoted

/-!
JSON values in messages: names for null and the truth values, texts quoted for
reading, and a blank after every comma and colon.
-/

namespace LakeAdmin.Json

variable {τ : Type} [TextLike τ]

mutual

/-- The form of a value in a message. -/
def display : Json τ → String
  | null => "None"
  | bool b => if b then "True" else "False"
  | int n => toString n
  | float x => x.toText
  | str s => TextLike.quoted s
  | arr items => "[" ++ ", ".intercalate (displayItems items) ++ "]"
  | obj members => "\x7b" ++ ", ".intercalate (displayMembers members) ++ "\x7d"

def displayItems : List (Json τ) → List String
  | [] => []
  | item :: rest => display item :: displayItems rest

def displayMembers : List (τ × Json τ) → List String
  | [] => []
  | (name, value) :: rest =>
    (TextLike.quoted name ++ ": " ++ display value) :: displayMembers rest

end

/-- A value inside running text: a text as it is, all else in its form for messages. -/
def plain : Json τ → String
  | str s => TextLike.shown s
  | value => value.display

end LakeAdmin.Json
