import LakeAdmin.Text.Split

/-!
Punycode: a text of any code points written in letters, digits and hyphens. The ASCII
characters come first; behind the last hyphen stand the places and values of the
others, as numbers whose digits have weights that follow the text.
-/

namespace LakeAdmin.Url.Punycode

open Text

/-- The bias that a code starts with. -/
def initialBias : Nat := 72

/-- The first code point that is not written as it is. -/
def firstCoded : Nat := 0x80

/-- Where a number may end: at a digit below this bound. -/
def threshold (index bias : Nat) : Nat :=
  min 26 (max 1 (36 * (index + 1) - bias))

/-- Brings a number down to 455, counting the steps. -/
def scaleDown (n : Nat) : Nat × Nat :=
  if 455 < n then
    let (rest, steps) := scaleDown (n / 35)
    (rest, steps + 1)
  else (n, 0)
termination_by n
decreasing_by exact Nat.div_lt_self (by omega) (by omega)

/-- The bias behind a number, when `count` code points are known. -/
def adapt (n : Nat) (isFirst : Bool) (count : Nat) : Nat :=
  let n := if isFirst then n / 700 else n / 2
  let (rest, steps) := scaleDown (n + n / count)
  36 * steps + 36 * rest / (rest + 38)

/-! ## Reading -/

def digitValue? (c : Char) : Option Nat :=
  if 'a' ≤ c && c ≤ 'z' then some (c.toNat - 'a'.toNat)
  else if 'A' ≤ c && c ≤ 'Z' then some (c.toNat - 'A'.toNat)
  else if c.isDigit then some (c.toNat - '0'.toNat + 26)
  else none

/-- What is known in the middle of a code: the text so far, the code point and the
place at which the next count starts, and the number that is being read. -/
structure Reading where
  text : List Nat
  point : Nat
  place : Nat
  bias : Nat
  isFirst : Bool
  value : Nat
  weight : Nat
  index : Nat
  deriving Repr

def Reading.start (text : List Nat) : Reading :=
  ⟨text, firstCoded, 0, initialBias, true, 0, 1, 0⟩

/-- Takes a number in: it counts through all places of the text, one code point after
another. -/
def Reading.place? (r : Reading) (value : Nat) : Option Reading :=
  let count := r.text.length + 1
  let point := r.point + (r.place + value) / count
  let place := (r.place + value) % count
  if 0x10FFFF < point then none
  else some ⟨r.text.insertIdx place point, point, place + 1, adapt value r.isFirst count, false,
    0, 1, 0⟩

def Reading.digit? (r : Reading) (digit : Nat) : Option Reading :=
  let bound := threshold r.index r.bias
  let value := r.value + digit * r.weight
  if digit < bound then r.place? value
  else some { r with value := value, weight := r.weight * (36 - bound), index := r.index + 1 }

/-- The code points that a code stands for. -/
def decode? (code : List Char) : Option (List Nat) := do
  let (plain, coded) := (cutLast? '-' code).getD ([], code)
  let reading ← coded.foldlM (fun (r : Reading) c => (digitValue? c).bind r.digit?)
    (Reading.start (plain.map (·.toNat)))
  if reading.index = 0 then some reading.text else none

/-! ## Writing -/

def digitChar (n : Nat) : Char :=
  if n < 26 then Char.ofNat ('a'.toNat + n) else Char.ofNat ('0'.toNat + (n - 26))

theorem threshold_pos (index bias : Nat) : 1 ≤ threshold index bias := by
  unfold threshold
  omega

theorem threshold_le (index bias : Nat) : threshold index bias ≤ 26 := by
  unfold threshold
  omega

def digits (index bias n : Nat) : List Char :=
  let bound := threshold index bias
  if n < bound then [digitChar n]
  else
    digitChar (bound + (n - bound) % (36 - bound)) ::
      digits (index + 1) bias ((n - bound) / (36 - bound))
termination_by n
decreasing_by
  have low := threshold_pos index bias
  have high := threshold_le index bias
  exact Nat.lt_of_le_of_lt (Nat.div_le_self _ _) (by omega)

/-- What is known in the middle of writing: the digits so far, the count since the last
number, and how many code points are written. -/
structure Writing where
  code : List Char
  count : Nat
  bias : Nat
  isFirst : Bool
  written : Nat
  deriving Repr

/-- Passes a code point of the text, writing a number if it is the one that is due. -/
def Writing.pass (due : Nat) (w : Writing) (n : Nat) : Writing :=
  if n < due then { w with count := w.count + 1 }
  else if n = due then
    ⟨w.code ++ digits 0 w.bias w.count, 0, adapt w.count w.isFirst (w.written + 1), false,
      w.written + 1⟩
  else w

/-- Writes all code points, the lowest first; `next` is the lowest not yet passed. -/
def writePoints (text : List Nat) : (due : List Nat) → (next : Nat) → Writing → List Char
  | [], _, w => w.code
  | n :: due, next, w =>
    let w := { w with count := w.count + (n - next) * (w.written + 1) }
    let w := text.foldl (Writing.pass n) w
    writePoints text due (n + 1) { w with count := w.count + 1 }

def encode (text : List Nat) : List Char :=
  let plain := text.filter (· < firstCoded)
  let due := ((text.filter (firstCoded ≤ ·)).mergeSort).eraseDups
  (if plain.isEmpty then [] else plain.map Char.ofNat ++ ['-']) ++
    writePoints text due firstCoded ⟨[], 0, initialBias, true, plain.length⟩

end LakeAdmin.Url.Punycode
