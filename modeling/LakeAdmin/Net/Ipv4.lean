import LakeAdmin.Text.Digit
import LakeAdmin.Text.Split

/-!
IPv4 addresses: numbers of 32 bits, written as four decimal octets with points
between them. An octet has no leading zero, so an address has one written form.
-/

namespace LakeAdmin

/-- An address as its number. -/
structure Ipv4 where
  value : Nat
  lt_size : value < 0x100000000
  deriving DecidableEq, Repr

namespace Ipv4

open Text

/-- The address with a given number, if there is one. -/
def ofInt? (n : Int) : Option Ipv4 :=
  if h : 0 ≤ n ∧ n < 0x100000000 then some ⟨n.toNat, by omega⟩ else none

def octet? (l : List Char) : Option (Fin 256) :=
  if l.isEmpty || 3 < l.length || (l.head? == some '0' && l ≠ ['0']) then none
  else do
    let digits ← l.mapM asciiDigit?
    let n := ofDigits 10 digits
    if h : n < 256 then some ⟨n, h⟩ else none

def ofOctets (a b c d : Fin 256) : Ipv4 :=
  ⟨((a.val * 256 + b.val) * 256 + c.val) * 256 + d.val, by omega⟩

def ofText? (s : String) : Option Ipv4 :=
  match splitAt '.' s.toList with
  | [a, b, c, d] => do
    return ofOctets (← octet? a) (← octet? b) (← octet? c) (← octet? d)
  | _ => none

def octets (address : Ipv4) : List Nat :=
  [address.value / 0x1000000, address.value / 0x10000 % 256, address.value / 0x100 % 256,
    address.value % 256]

def toText (address : Ipv4) : String :=
  ".".intercalate (address.octets.map toString)

end Ipv4

end LakeAdmin
