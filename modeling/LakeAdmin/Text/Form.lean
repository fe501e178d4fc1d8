import LakeAdmin.Text.Percent
import LakeAdmin.Text.Split

/-!
Form encoding of lists of named values, as in a query: `name=value` pairs joined
by `&`, a space written `+`, and all but the unreserved characters percent encoded.
-/

namespace LakeAdmin.Text.Form

def encodeChar (c : Char) : List Char :=
  if c = ' ' then ['+'] else Percent.encodeChar Percent.isUnreserved c

def encodeText (s : String) : String :=
  String.ofList (s.toList.flatMap encodeChar)

def encodePair (pair : String × String) : String :=
  encodeText pair.1 ++ "=" ++ encodeText pair.2

/-- Named values in their order. -/
def encode (pairs : List (String × String)) : String :=
  "&".intercalate (pairs.map encodePair)

def decodeText (l : List Char) : String :=
  Percent.decode (String.ofList (l.map fun c => if c = '+' then ' ' else c))

/-- A part of a form split at its first `=`; a part without one has no value. -/
def decodePair (l : List Char) : String × String :=
  let (name, value) := cutFirst '=' l
  (decodeText name, decodeText (value.getD []))

/-- The named values of a form. Empty parts stand for nothing. -/
def decode (s : String) : List (String × String) :=
  ((splitAt '&' s.toList).filter (!·.isEmpty)).map decodePair

end LakeAdmin.Text.Form
