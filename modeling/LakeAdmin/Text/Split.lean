/-!
Cutting texts at a character. A list of characters has one part more than it has
separators, and joining the parts gives it back.
-/

namespace LakeAdmin.Text

def splitAt (separator : Char) : List Char → List (List Char)
  | [] => [[]]
  | c :: rest =>
    if c = separator then [] :: splitAt separator rest
    else
      match splitAt separator rest with
      | [] => [[c]]
      | part :: parts => (c :: part) :: parts

def joinWith (separator : Char) : List (List Char) → List Char
  | [] => []
  | [part] => part
  | part :: next :: rest => part ++ separator :: joinWith separator (next :: rest)

/-- A list cut at its first separator, which is in neither part; `none` for the
second part if there is no separator. -/
def cutFirst (separator : Char) : List Char → List Char × Option (List Char)
  | [] => ([], none)
  | c :: rest =>
    if c = separator then ([], some rest)
    else
      let (before, after) := cutFirst separator rest
      (c :: before, after)

def cutLast? (separator : Char) (l : List Char) : Option (List Char × List Char) :=
  match cutFirst separator l.reverse with
  | (_, none) => none
  | (after, some before) => some (before.reverse, after.reverse)

end LakeAdmin.Text
