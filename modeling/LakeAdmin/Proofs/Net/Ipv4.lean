import LakeAdmin.Net.Ipv4
import LakeAdmin.Proofs.Text.Digit
import LakeAdmin.Proofs.Text.Split

/-!
Addresses and their texts. An address is read from the text that it is written as, and from no
other: an octet has one decimal form, and so an address has one dotted quad.
-/

namespace LakeAdmin.Ipv4

open Text

/-! ## Octets -/

/-- An octet is a decimal form of at most three digits, of a number that is small enough. -/
theorem octet?_iff {l : List Char} {n : Fin 256} :
    octet? l = some n ↔ ∃ digits, IsDecimal digits ∧ l = digits.map Nat.digitChar ∧
      digits.length ≤ 3 ∧ ofDigits 10 digits = n.val := by
  have leads {digits : List Nat} (small : ∀ digit ∈ digits, digit < 10) :
      (digits.map Nat.digitChar).head? = some '0' ↔ digits.head? = some 0 := by
    cases digits with
    | nil => simp
    | cons digit rest => simp [digitChar_zero (small digit List.mem_cons_self)]
  unfold octet?
  constructor
  · intro h
    split at h
    · cases h
    · rename_i fits
      simp only [Bool.or_eq_true, List.isEmpty_iff, decide_eq_true_eq, Bool.and_eq_true, beq_iff_eq,
        not_or, not_and, ne_eq, Decidable.not_not] at fits
      obtain ⟨⟨filled, short⟩, plain⟩ := fits
      obtain ⟨digits, read, made⟩ := Option.bind_eq_some_iff.mp h
      obtain ⟨rfl, small⟩ := mapM_asciiDigit?_iff.mp read
      dsimp only at made
      split at made
      · cases made
        refine ⟨digits, ⟨small, by simpa using filled, fun first => ?_⟩, rfl, ?_, rfl⟩
        · have alone := congrArg (·.mapM asciiDigit?) (plain ((leads small).mpr first))
          rw [mapM_digitChar small] at alone
          exact Option.some.inj alone
        · simpa using short
      · cases made
  · rintro ⟨digits, decimal, rfl, short, value⟩
    have plain : (digits.map Nat.digitChar).head? = some '0' →
        digits.map Nat.digitChar = ['0'] := by
      intro first
      rw [decimal.plain ((leads decimal.small).mp first)]
      rfl
    rw [if_neg (by simpa [decimal.filled, Nat.not_lt.mpr short] using plain),
      mapM_digitChar decimal.small]
    simp [value]

theorem toString_toList (n : Nat) : (toString n).toList = Nat.toDigits 10 n := by
  rw [Nat.toString_eq_ofList_toDigits, String.toList_ofList]

theorem octet?_toString (n : Fin 256) : octet? (toString n.val).toList = some n := by
  obtain ⟨digits, decimal, value⟩ := exists_decimal n.val
  have form : (toString n.val).toList = digits.map Nat.digitChar := by
    rw [toString_toList, ← value, decimal.toDigits]
  have short : digits.length ≤ 3 := by
    rw [← List.length_map (f := Nat.digitChar), ← form, toString_toList]
    exact (Nat.length_toDigits_le_iff (by decide) (by decide)).mpr (by omega)
  exact octet?_iff.mpr ⟨digits, decimal, form, short, value⟩

/-- The decimal form of an octet is the only one that is read. -/
theorem octet?_canonical {l : List Char} {n : Fin 256} (h : octet? l = some n) :
    l = (toString n.val).toList := by
  obtain ⟨digits, decimal, rfl, -, value⟩ := octet?_iff.mp h
  rw [toString_toList, ← value, decimal.toDigits]

/-- An octet is one to three decimal digits. -/
theorem octet_chars {l : List Char} {n : Fin 256} (h : octet? l = some n) :
    (l ≠ [] ∧ l.length ≤ 3) ∧ ∀ c ∈ l, c.isDigit = true := by
  obtain ⟨digits, decimal, rfl, short, value⟩ := octet?_iff.mp h
  refine ⟨⟨by simpa using decimal.filled, by simpa using short⟩, ?_⟩
  rw [← decimal.toDigits]
  exact fun c member => Nat.isDigit_of_mem_toDigits (by decide) (by decide) member

theorem octet_undotted (n : Fin 256) : '.' ∉ (toString n.val).toList := by
  intro dot
  have digit := (octet_chars (octet?_toString n)).2 '.' dot
  exact absurd digit (by decide)

/-! ## Quads -/

def quad (a b c d : Fin 256) : String :=
  ".".intercalate [toString a.val, toString b.val, toString c.val, toString d.val]

/-- A text is the dotted quad of a number: its digits to the base 256, in decimal. -/
def IsQuad (text : String) (number : Nat) : Prop :=
  ∃ a b c d : Fin 256, text = quad a b c d ∧
    number = ((a.val * 256 + b.val) * 256 + c.val) * 256 + d.val

theorem splitAt_quad (a b c d : Fin 256) :
    splitAt '.' (quad a b c d).toList = [(toString a.val).toList, (toString b.val).toList,
      (toString c.val).toList, (toString d.val).toList] := by
  unfold quad
  rw [intercalate_joinWith (show ".".toList = ['.'] from rfl)]
  apply splitAt_joinWith
  · simp
  · simp only [List.map_cons, List.map_nil, List.forall_mem_cons, List.not_mem_nil,
      false_imp_iff, implies_true, and_true]
    exact ⟨octet_undotted a, octet_undotted b, octet_undotted c, octet_undotted d⟩

/-- An address is made of its octets, from the highest to the lowest. -/
theorem octets_eq (address : Ipv4) :
    ∃ a b c d : Fin 256, address = ofOctets a b c d ∧
      address.octets = [a.val, b.val, c.val, d.val] := by
  obtain ⟨value, small⟩ := address
  refine ⟨⟨value / 0x1000000, by omega⟩, ⟨value / 0x10000 % 256, by omega⟩,
    ⟨value / 0x100 % 256, by omega⟩, ⟨value % 256, by omega⟩, ?_, rfl⟩
  simp only [ofOctets, mk.injEq]
  omega

theorem toText_ofOctets (a b c d : Fin 256) : (ofOctets a b c d).toText = quad a b c d := by
  have octets : (ofOctets a b c d).octets = [a.val, b.val, c.val, d.val] := by
    unfold octets ofOctets
    simp only [List.cons.injEq, and_true]
    omega
  unfold toText quad
  rw [octets]
  rfl

theorem toText_quad (address : Ipv4) : IsQuad address.toText address.value := by
  obtain ⟨a, b, c, d, rfl, -⟩ := octets_eq address
  exact ⟨a, b, c, d, toText_ofOctets a b c d, rfl⟩

/-- A dotted quad is the text of an address. -/
theorem quad_toText {text : String} {number : Nat} (h : IsQuad text number) :
    ∃ address : Ipv4, address.toText = text ∧ address.value = number := by
  obtain ⟨a, b, c, d, rfl, rfl⟩ := h
  exact ⟨ofOctets a b c d, toText_ofOctets a b c d, rfl⟩

/-! ## Reading -/

theorem ofText?_toText (address : Ipv4) : ofText? address.toText = some address := by
  obtain ⟨a, b, c, d, rfl, -⟩ := octets_eq address
  unfold ofText?
  rw [toText_ofOctets, splitAt_quad]
  simp only [octet?_toString]
  rfl

/-- What is read as an address is four octets between points. -/
theorem ofText?_parts {s : String} {address : Ipv4} (h : ofText? s = some address) :
    ∃ (first second third fourth : List Char) (a b c d : Fin 256),
      splitAt '.' s.toList = [first, second, third, fourth] ∧
      octet? first = some a ∧ octet? second = some b ∧ octet? third = some c ∧
      octet? fourth = some d ∧ address = ofOctets a b c d := by
  unfold ofText? at h
  split at h
  · rename_i first second third fourth parts
    obtain ⟨a, ha, h⟩ := Option.bind_eq_some_iff.mp h
    obtain ⟨b, hb, h⟩ := Option.bind_eq_some_iff.mp h
    obtain ⟨c, hc, h⟩ := Option.bind_eq_some_iff.mp h
    obtain ⟨d, hd, h⟩ := Option.bind_eq_some_iff.mp h
    cases h
    exact ⟨first, second, third, fourth, a, b, c, d, parts, ha, hb, hc, hd, rfl⟩
  · cases h

/-- An address is read from its text, and from no other. -/
theorem ofText?_iff {s : String} {address : Ipv4} :
    ofText? s = some address ↔ s = address.toText := by
  constructor
  · intro h
    obtain ⟨first, second, third, fourth, a, b, c, d, split, ha, hb, hc, hd, rfl⟩ :=
      ofText?_parts h
    have parts : splitAt '.' s.toList = splitAt '.' (quad a b c d).toList := by
      rw [split, splitAt_quad, octet?_canonical ha, octet?_canonical hb, octet?_canonical hc,
        octet?_canonical hd]
    rw [toText_ofOctets, ← String.toList_inj, ← joinWith_splitAt '.' s.toList, parts,
      joinWith_splitAt]
  · rintro rfl
    exact ofText?_toText address

end LakeAdmin.Ipv4
