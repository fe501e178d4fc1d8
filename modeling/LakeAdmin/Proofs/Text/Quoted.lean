import Mathlib.Algebra.GroupWithZero.Nat
import LakeAdmin.Proofs.Text.Digit
import LakeAdmin.Text.Quoted

/-!
Quoted texts end by themselves: whatever follows a quoted text, the text and what follows it can
be told apart. Every code point between the quotes is written in a way that a reader undoes, and
in none that starts with the quote.
-/

namespace LakeAdmin

/-! ## Code points -/

theorem Point.ofCode_code (p : Point) : Point.ofCode p.code = p := by
  cases p with
  | char c =>
    have scalar : ¬(0xD800 ≤ c.toNat ∧ c.toNat < 0xE000) := by
      have valid : c.toNat < 0xD800 ∨ (0xDFFF < c.toNat ∧ c.toNat < 0x110000) := c.valid
      omega
    rw [code, ofCode, if_neg scalar, Char.ofNat_toNat]
  | lone offset =>
    have range : 0xD800 ≤ 0xD800 + offset.val ∧ 0xD800 + offset.val < 0xE000 := by omega
    rw [code, ofCode, if_pos range, Point.offset, Nat.add_sub_cancel_left, Fin.ofNat_val_eq_self]

theorem Point.code_lt (p : Point) : p.code < 16 ^ 8 := by
  cases p with
  | char c => exact Nat.lt_of_lt_of_le c.val.toNat_lt (by decide)
  | lone offset =>
    rw [code]
    omega

/-- A text is made of its code points in one way. -/
theorem Wide.points_inj {a b : Wide} (h : a.points = b.points) : a = b := by
  have whole (s : String) : ¬(plain s).points.any Point.isLone = true := by
    simp [points, Point.isLone]
  cases a with
  | plain s =>
    cases b with
    | plain t =>
      have letters : s.toList = t.toList :=
        (List.map_inj_right fun _ _ => Point.char.inj).mp h
      rw [String.toList_inj.mp letters]
    | ragged text => exact absurd (h ▸ text.ragged) (whole s)
  | ragged text =>
    cases b with
    | plain t => exact absurd (h ▸ text.ragged) (whole t)
    | ragged other =>
      obtain ⟨points, lone⟩ := text
      obtain ⟨others, lone'⟩ := other
      cases h
      rfl

namespace Text

/-! ## Hexadecimal digits -/

def hexValue (l : List Char) : Nat := ofDigits 16 (l.filterMap hexDigit?)

theorem hexDigit?_digitChar : ∀ d : Fin 16, hexDigit? (Nat.digitChar d) = some d.val := by
  decide

theorem hexValue_toDigits (n : Nat) : hexValue (Nat.toDigits 16 n) = n := by
  induction n using Nat.strongRecOn with
  | ind n ih =>
    by_cases small : n < 16
    · have digit := hexDigit?_digitChar ⟨n, small⟩
      rw [Nat.toDigits_of_lt_base small]
      simp [hexValue, ofDigits, digit]
    · have digit := hexDigit?_digitChar ⟨n % 16, Nat.mod_lt n (by decide)⟩
      have front := ih (n / 16) (by omega)
      unfold hexValue at front ⊢
      rw [Nat.toDigits_of_base_le (by decide) (by omega), List.filterMap_append, ofDigits_append,
        front]
      simp only [List.filterMap_cons, digit, List.filterMap_nil, List.foldl_cons, List.foldl_nil]
      omega

/-- Leading zeros do not count. -/
theorem hexValue_hexLower (count n : Nat) : hexValue (hexLower count n) = n := by
  have zeros (k : Nat) : ofDigits 16 (List.replicate k 0) = 0 := by
    induction k with
    | zero => rfl
    | succ k ih => simpa [ofDigits, List.replicate_succ] using ih
  have value := hexValue_toDigits n
  unfold hexValue at value ⊢
  unfold hexLower
  have zero : hexDigit? '0' = some 0 := by decide
  rw [List.filterMap_append, List.filterMap_replicate_of_some zero, ofDigits_append, zeros]
  exact value

theorem hexLower_length {count n : Nat} (some : 0 < count) (h : n < 16 ^ count) :
    (hexLower count n).length = count := by
  have short := (Nat.length_toDigits_le_iff (by decide) some).mpr h
  unfold hexLower
  rw [List.length_append, List.length_replicate]
  omega

namespace Quoted

/-! ## Code points between quotes -/

/-- The code point that so many hexadecimal digits stand for, and what follows them. -/
def readHex (count : Nat) (l : List Char) : Point × List Char :=
  (.ofCode (hexValue (l.take count)), l.drop count)

/-- The first code point of a text between quotes, and what follows it. -/
def readPoint : List Char → Option (Point × List Char)
  | [] => none
  | '\\' :: 'n' :: l => some (.char '\n', l)
  | '\\' :: 'r' :: l => some (.char '\r', l)
  | '\\' :: 't' :: l => some (.char '\t', l)
  | '\\' :: 'x' :: l => some (readHex 2 l)
  | '\\' :: 'u' :: l => some (readHex 4 l)
  | '\\' :: 'U' :: l => some (readHex 8 l)
  | '\\' :: c :: l => some (.char c, l)
  | c :: l => some (.char c, l)

def IsQuote (quote : Char) : Prop := quote = '\'' ∨ quote = '"'

theorem quoteFor_quote (l : List Char) : IsQuote (quoteFor l) := by
  unfold quoteFor IsQuote
  split <;> simp

theorem readHex_hexLower {count : Nat} {p : Point} (some : 0 < count)
    (h : p.code < 16 ^ count) (rest : List Char) :
    readHex count (hexLower count p.code ++ rest) = (p, rest) := by
  have size := hexLower_length some h
  unfold readHex
  rw [List.take_left' size, List.drop_left' size, hexValue_hexLower, Point.ofCode_code]

theorem readPoint_plain {c : Char} (h : c ≠ '\\') (rest : List Char) :
    readPoint (c :: rest) = some (.char c, rest) := by
  unfold readPoint
  split <;> simp_all

/-- The ways to write a code point between quotes. -/
inductive IsForm (quote : Char) : Point → List Char → Prop
  | plain {c : Char} (other : c ≠ quote) (visible : c ≠ '\\') : IsForm quote c [c]
  | escaped {c : Char} (known : c = quote ∨ c = '\\') : IsForm quote c ['\\', c]
  | named {c code : Char} (known : (c, code) ∈ [('\n', 'n'), ('\r', 'r'), ('\t', 't')]) :
      IsForm quote c ['\\', code]
  | numbered {p : Point} {code : Char} {count : Nat}
      (known : (code, count) ∈ [('x', 2), ('u', 4), ('U', 8)]) (small : p.code < 16 ^ count) :
      IsForm quote p ('\\' :: code :: hexLower count p.code)

theorem encodeChar_form (quote c : Char) : IsForm quote c (encodeChar quote c) := by
  unfold encodeChar
  split
  · rename_i known
    exact .escaped known
  · rename_i plain
    rw [not_or] at plain
    split
    · rename_i same
      exact .named (by simp [same])
    · split
      · rename_i same
        exact .named (by simp [same])
      · split
        · rename_i same
          exact .named (by simp [same])
        · split
          · exact .plain plain.1 plain.2
          · split
            · rename_i small
              exact .numbered (p := c) (by decide) small
            · split
              · rename_i small
                exact .numbered (p := c) (by decide) small
              · exact .numbered (p := c) (by decide) (Point.code_lt c)

theorem encodePoint_form (quote : Char) (p : Point) : IsForm quote p (encodePoint quote p) := by
  cases p with
  | char c => exact encodeChar_form quote c
  | lone offset =>
    have small : (Point.lone offset).code < 16 ^ 4 := by
      rw [Point.code]
      omega
    exact .numbered (by decide) small

/-- The reader undoes every form of a code point. -/
theorem readPoint_form {quote : Char} (quotes : IsQuote quote) {p : Point} {l : List Char}
    (h : IsForm quote p l) (rest : List Char) : readPoint (l ++ rest) = some (p, rest) := by
  cases h with
  | plain _ visible => exact readPoint_plain visible rest
  | escaped known =>
    rcases known with rfl | rfl
    · rcases quotes with rfl | rfl <;> rfl
    · rfl
  | named known =>
    simp only [List.mem_cons, Prod.mk.injEq, List.not_mem_nil, or_false] at known
    rcases known with ⟨rfl, rfl⟩ | ⟨rfl, rfl⟩ | ⟨rfl, rfl⟩ <;> rfl
  | numbered known small =>
    simp only [List.mem_cons, Prod.mk.injEq, List.not_mem_nil, or_false] at known
    rcases known with ⟨rfl, rfl⟩ | ⟨rfl, rfl⟩ | ⟨rfl, rfl⟩ <;>
      exact congrArg some (readHex_hexLower (by decide) small rest)

/-- No form of a code point starts with the quote. -/
theorem IsForm.head {quote : Char} (quotes : IsQuote quote) {p : Point} {l : List Char}
    (h : IsForm quote p l) : ∃ first rest, l = first :: rest ∧ first ≠ quote := by
  have other : '\\' ≠ quote := by
    rintro rfl
    rcases quotes with same | same <;> cases same
  cases h with
  | plain plain _ => exact ⟨_, _, rfl, plain⟩
  | escaped _ => exact ⟨_, _, rfl, other⟩
  | named _ => exact ⟨_, _, rfl, other⟩
  | numbered _ _ => exact ⟨_, _, rfl, other⟩

/-! ## Texts -/

theorem points_front {quote : Char} (quotes : IsQuote quote) {l m : List Point}
    {r r' : List Char}
    (h : l.flatMap (encodePoint quote) ++ quote :: r =
      m.flatMap (encodePoint quote) ++ quote :: r') : l = m ∧ r = r' := by
  induction l generalizing m with
  | nil =>
    cases m with
    | nil => exact ⟨rfl, (List.cons.inj h).2⟩
    | cons d m =>
      obtain ⟨first, rest, starts, other⟩ := (encodePoint_form quote d).head quotes
      rw [List.flatMap_cons, starts] at h
      exact absurd (List.cons.inj h).1.symm other
  | cons c l ih =>
    cases m with
    | nil =>
      obtain ⟨first, rest, starts, other⟩ := (encodePoint_form quote c).head quotes
      rw [List.flatMap_cons, starts] at h
      exact absurd (List.cons.inj h).1 other
    | cons d m =>
      rw [List.flatMap_cons, List.flatMap_cons, List.append_assoc, List.append_assoc] at h
      have read := congrArg readPoint h
      rw [readPoint_form quotes (encodePoint_form quote c),
        readPoint_form quotes (encodePoint_form quote d), Option.some.injEq, Prod.mk.injEq] at read
      obtain ⟨rfl, behind⟩ := read
      obtain ⟨rfl, rfl⟩ := ih behind
      exact ⟨rfl, rfl⟩

/-- A text between quotes is its code points between quotes. -/
theorem quoted_points (text : Wide) : TextLike.quoted text = encodePoints text.points := by
  cases text with
  | plain s =>
    have shown : (s.toList.map Point.char).map Point.shown = s.toList := by
      rw [List.map_map]
      exact List.map_id _
    show encode s = encodePoints (s.toList.map .char)
    unfold encode encodePoints
    dsimp only
    rw [shown, List.flatMap_map]
    rfl
  | ragged text => rfl

/-- A quoted text and what follows it can be told apart. -/
theorem quoted_front {s t : Wide} {r r' : List Char}
    (h : (TextLike.quoted s).toList ++ r = (TextLike.quoted t).toList ++ r') :
    s = t ∧ r = r' := by
  rw [quoted_points, quoted_points] at h
  unfold encodePoints at h
  simp only [String.toList_ofList, List.cons_append, List.append_assoc, List.nil_append] at h
  obtain ⟨quotes, h⟩ := List.cons.inj h
  rw [← quotes] at h
  obtain ⟨same, rest⟩ := points_front (quoteFor_quote _) h
  exact ⟨Wide.points_inj same, rest⟩

end Quoted

end Text

end LakeAdmin
