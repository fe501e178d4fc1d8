import LakeAdmin.Net.Ipv6
import LakeAdmin.Text.Percent
import LakeAdmin.Url.HostName

/-!
Hosts as they are written in a request: addresses checked, names in lower case and
in ASCII.
-/

namespace LakeAdmin.Url

open Text

inductive HostFault where
  | ipv4
  | ipv6
  | name
  deriving DecidableEq, Repr

/-- One step of the search for four groups of digits with any single character
between each two. State `2 * g` is before group `g`, state `2 * g + 1` inside it. -/
def stepGroups (c : Char) (state : Nat) : List Nat :=
  (if c.isDigit then [2 * (state / 2) + 1] else []) ++
    (if state % 2 = 1 ∧ state < 7 then [state + 1] else [])

/-- Whether a host has the look of an IPv4 address, and so has to be one. -/
def looksLikeIpv4 (l : List Char) : Bool :=
  (l.foldl (fun states c => (states.flatMap (stepGroups c)).eraseDups) [0]).contains 7

/-- The marks that may stand in a host besides the unreserved characters. -/
def isHostChar (c : Char) : Bool :=
  Percent.isUnreserved c || "!$&'()*+,;=\"`\x7b\x7d%|\\".toList.contains c

/-- The written form of a host. An IPv6 address loses its brackets. -/
def encodeHost (l : List Char) : Except HostFault String :=
  if l.isEmpty then .ok ""
  else if looksLikeIpv4 l then
    if (Ipv4.ofText? (String.ofList l)).isSome then .ok (String.ofList l) else .error .ipv4
  else if l.head? = some '[' ∧ l.getLast? = some ']' then
    let address := (l.drop 1).dropLast
    if Ipv6.isAddress address then .ok (String.ofList address) else .error .ipv6
  else if l.all (·.toNat < 0x80) then
    .ok (Percent.encode isHostChar (lowerAscii (String.ofList l)))
  else
    match HostName.encode (lower (String.ofList l)) with
    | .ok name => .ok name
    | .error _ => .error .name

end LakeAdmin.Url
