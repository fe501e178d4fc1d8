import LakeAdmin.Json.Basic
import LakeAdmin.Numeric.Shortest
import LakeAdmin.Text.Digit

/-!
JSON text without blanks. Characters outside ASCII are written as they are. A value
that holds an infinite or undefined number has no standard text, one that holds a
surrogate on its own cannot be encoded, and one that is nested too deep is not written.
-/

namespace LakeAdmin.Json

open Text

def escapeChar (c : Char) : List Char :=
  if c = '"' ∨ c = '\\' then ['\\', c]
  else if c = '\n' then ['\\', 'n']
  else if c = '\r' then ['\\', 'r']
  else if c = '\t' then ['\\', 't']
  else if c = '\x08' then ['\\', 'b']
  else if c = '\x0c' then ['\\', 'f']
  else if c.toNat < 0x20 then '\\' :: 'u' :: hexLower 4 c.toNat
  else [c]

def quote (s : String) : String :=
  String.ofList ('"' :: s.toList.flatMap escapeChar ++ ['"'])

/-- A double; what is not finite is written by its name. -/
def renderFloat : Binary64 → String
  | .infinite negative => if negative then "-Infinity" else "Infinity"
  | .nan => "NaN"
  | x => x.toText

mutual

def render : Json → String
  | null => "null"
  | bool b => if b then "true" else "false"
  | int n => toString n
  | float x => renderFloat x
  | str s => quote s
  | arr items => "[" ++ ",".intercalate (renderItems items) ++ "]"
  | obj members => "\x7b" ++ ",".intercalate (renderMembers members) ++ "\x7d"

def renderItems : List Json → List String
  | [] => []
  | item :: rest => render item :: renderItems rest

def renderMembers : List (String × Json) → List String
  | [] => []
  | (name, value) :: rest => (quote name ++ ":" ++ render value) :: renderMembers rest

end

/-! ## What can be written -/

variable {τ : Type}

mutual

/-- Whether every number in a value is finite. -/
def isFinite : Json τ → Bool
  | float x => x.isFinite
  | arr items => areFinite items
  | obj members => membersFinite members
  | _ => true

def areFinite : List (Json τ) → Bool
  | [] => true
  | item :: rest => isFinite item && areFinite rest

def membersFinite : List (τ × Json τ) → Bool
  | [] => true
  | (_, value) :: rest => isFinite value && membersFinite rest

end

mutual

/-- How many arrays and objects stand around the innermost part of a value. -/
def depth : Json τ → Nat
  | arr items => itemsDepth items + 1
  | obj members => membersDepth members + 1
  | _ => 0

def itemsDepth : List (Json τ) → Nat
  | [] => 0
  | item :: rest => max (depth item) (itemsDepth rest)

def membersDepth : List (τ × Json τ) → Nat
  | [] => 0
  | (_, value) :: rest => max (depth value) (membersDepth rest)

end

mutual

def isPlain : Document → Bool
  | str s => s.isPlain
  | arr items => arePlain items
  | obj members => membersPlain members
  | _ => true

def arePlain : List Document → Bool
  | [] => true
  | item :: rest => isPlain item && arePlain rest

def membersPlain : List (Wide × Document) → Bool
  | [] => true
  | (name, value) :: rest => name.isPlain && isPlain value && membersPlain rest

end

end LakeAdmin.Json
