import LakeAdmin.Text.LowerCase
import LakeAdmin.Url.Label.Basic
import LakeAdmin.Url.Punycode

/-!
Names of hosts with labels outside ASCII. In a URL such a label stands as `xn--` and
its code; read, it stands as itself.
-/

namespace LakeAdmin.Url.HostName

open Text Label

inductive NameFault where
  | empty
  | tooLong
  | label (fault : LabelFault)
  deriving DecidableEq, Repr

def NameFault.message : NameFault → String
  | empty => "Empty domain"
  | tooLong => "Domain too long"
  | label fault => fault.message

/-- What a coded label starts with. -/
def codeMark : List Char := ['x', 'n', '-', '-']

/-- The most characters that a name may have, a point at its end included. -/
def lengthLimit : Nat := 254

/-- Whether a character parts labels. -/
def isPoint (c : Char) : Bool := ['.', '\u3002', '\uff0e', '\uff61'].contains c

/-- A name cut at its points. -/
def labels (name : List Char) : List (List Char) :=
  splitAt '.' (name.map fun c => if isPoint c then '.' else c)

/-- The code points of a label as it is read. -/
def readLabel (label : List Char) : Except LabelFault (List Nat) :=
  let label := (lowerAscii (String.ofList label)).toList
  if codeMark.isPrefixOf label then
    let code := label.drop codeMark.length
    if code.isEmpty then .error .codeEmpty
    else if code.getLast? = some '-' then .error .codeEndsInHyphen
    else
      match Punycode.decode? code with
      | none => .error .codeUnreadable
      | some points => do
        check points
        return points
  else do
    let points := label.map (·.toNat)
    check points
    return points

def writeLabel (label : List Char) : Except LabelFault (List Char) := do
  let written ←
    if label.all (·.toNat < 0x80) then do
      let _ ← readLabel label
      pure label
    else do
      let points := label.map (·.toNat)
      check points
      pure (codeMark ++ Punycode.encode points)
  if 63 < written.length then throw .tooLong
  return written

/-- Treats each label of a name. A point at the end stays. -/
def mapLabels (f : List Char → Except LabelFault (List Char)) (name : String) :
    Except NameFault String :=
  if lengthLimit < name.length then .error .tooLong
  else
    match labels name.toList with
    | [[]] => .error .empty
    | parts =>
      let ending := if parts.getLast? = some [] then [[]] else []
      match (if ending.isEmpty then parts else parts.dropLast).mapM f with
      | .error fault => .error (.label fault)
      | .ok parts => .ok (String.ofList (joinWith '.' (parts ++ ending)))

def encode (name : String) : Except NameFault String := do
  let written ← mapLabels writeLabel name
  if lengthLimit - (if written.endsWith "." then 0 else 1) < written.length then
    throw .tooLong
  return written

def decode (name : String) : Except NameFault String :=
  mapLabels (fun label => (readLabel label).map (·.map Char.ofNat)) name

end LakeAdmin.Url.HostName
