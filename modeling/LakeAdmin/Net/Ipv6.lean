import LakeAdmin.Net.Ipv4

/-!
Which texts are IPv6 addresses: eight groups of up to four hexadecimal digits with
colons between them, where one run of zero groups may be left out and the last two
groups may be an IPv4 address. A zone may follow a percent sign.
-/

namespace LakeAdmin.Ipv6

open Text

def isGroup (l : List Char) : Bool :=
  !l.isEmpty && l.length ≤ 4 && l.all fun c => (hexDigit? c).isSome

/-- The parts of an address with an IPv4 ending written as two groups, if that
ending is well formed. -/
def expandEnding (parts : List (List Char)) : Option (List (List Char)) :=
  match parts.getLast? with
  | some last =>
    if last.contains '.' then
      (Ipv4.ofText? (String.ofList last)).map fun _ => parts.dropLast ++ [['0'], ['0']]
    else some parts
  | none => some parts

/-- Whether parts between colons make up an address. An empty part inside them
stands for the run of groups left out, and there is at most one. -/
def areGroups (parts : List (List Char)) : Bool :=
  let inner := (parts.drop 1).dropLast
  let first := parts.headD []
  let last := parts.getLastD []
  match (inner.filter (·.isEmpty)).length with
  | 0 => parts.length = 8 && parts.all isGroup
  | 1 =>
    let high := (if first.isEmpty then [] else [first]) ++ inner.takeWhile (!·.isEmpty)
    let low := (inner.dropWhile (!·.isEmpty)).drop 1 ++ (if last.isEmpty then [] else [last])
    !(first.isEmpty && !high.isEmpty) && !(last.isEmpty && !low.isEmpty) &&
      high.length + low.length < 8 && high.all isGroup && low.all isGroup
  | _ => false

/-- Whether a text without a zone is an address. -/
def isPlain (l : List Char) : Bool :=
  let parts := splitAt ':' l
  3 ≤ parts.length &&
    match expandEnding parts with
    | some groups => groups.length ≤ 9 && areGroups groups
    | none => false

def isAddress (l : List Char) : Bool :=
  let (address, zone) := cutFirst '%' l
  let zoneFits := match zone with
    | none => true
    | some name => !name.isEmpty && !name.contains '%'
  zoneFits && !l.contains '/' && isPlain address

end LakeAdmin.Ipv6
