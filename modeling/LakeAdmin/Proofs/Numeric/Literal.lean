import Mathlib.Data.List.DropRight
import LakeAdmin.Numeric.Literal

/-!
The texts that denote doubles, as a grammar, and the reader of them, which reads these and no
others. A literal may stand between white space and have a sign. It is a word for infinity, the
word for what is no number, or a decimal: digits with an optional fraction and exponent.
-/

namespace LakeAdmin.Literal

open Text

variable {digit : Char → Option Nat}

/-! ## The grammar -/

/-- Digits, with single underscores between some of them. -/
inductive IsNumeral (digit : Char → Option Nat) : List Char → List Nat → Prop
  | last {c : Char} {value : Nat} (read : digit c = some value) : IsNumeral digit [c] [value]
  | next {c : Char} {value : Nat} {l : List Char} {values : List Nat}
      (read : digit c = some value) (more : IsNumeral digit l values) :
      IsNumeral digit (c :: l) (value :: values)
  | parted {c : Char} {value : Nat} {l : List Char} {values : List Nat}
      (read : digit c = some value) (more : IsNumeral digit l values) :
      IsNumeral digit (c :: '_' :: l) (value :: values)

/-- A numeral that may be missing. -/
def IsPart (digit : Char → Option Nat) (l : List Char) (values : List Nat) : Prop :=
  (l = [] ∧ values = []) ∨ IsNumeral digit l values

/-- A sign that may be missing; `true` stands for a minus sign. -/
inductive IsSign : List Char → Bool → Prop
  | none : IsSign [] false
  | plus : IsSign ['+'] false
  | minus : IsSign ['-'] true

/-- A fraction that may be missing. Behind a point there need be no digits. -/
inductive IsFraction (digit : Char → Option Nat) : List Char → List Nat → Prop
  | none : IsFraction digit [] []
  | point {l : List Char} {values : List Nat} (part : IsPart digit l values) :
      IsFraction digit ('.' :: l) values

/-- An exponent that may be missing. -/
inductive IsExponent (digit : Char → Option Nat) : List Char → Int → Prop
  | none : IsExponent digit [] 0
  | power {mark : Char} {front l : List Char} {negative : Bool} {values : List Nat}
      (marks : mark = 'e' ∨ mark = 'E') (signs : IsSign front negative)
      (numeral : IsNumeral digit l values) :
      IsExponent digit (mark :: (front ++ l)) (signed negative (ofDigits 10 values))

/-- A literal without its sign. -/
inductive IsMagnitude (digit : Char → Option Nat) (negative : Bool) : List Char → Binary64 → Prop
  | infinite {l : List Char}
      (word : l.map Char.toLower ∈ ["inf".toList, "infinity".toList]) :
      IsMagnitude digit negative l (.infinite negative)
  | undefined {l : List Char} (word : l.map Char.toLower = "nan".toList) :
      IsMagnitude digit negative l .nan
  | decimal {whole fraction power : List Char} {front behind : List Nat} {exponent : Int}
      (part : IsPart digit whole front) (point : IsFraction digit fraction behind)
      (some : front ++ behind ≠ []) (scale : IsExponent digit power exponent) :
      IsMagnitude digit negative (whole ++ fraction ++ power)
        (.ofDecimal negative (ofDigits 10 (front ++ behind)) (exponent - behind.length))

/-- A text denotes a double: it is a literal for it, with or without white space around it. -/
def Denotes (digit : Char → Option Nat) (text : String) (x : Binary64) : Prop :=
  ∃ before front l after : List Char, ∃ negative : Bool,
    text.toList = before ++ (front ++ l) ++ after ∧ before.all isWhite ∧ after.all isWhite ∧
      IsSign front negative ∧ IsMagnitude digit negative l x

/-! ## Characters -/

/-- The characters that a literal may hold beside its digits. -/
def marks : List Char := ['_', '.', 'e', 'E', '+', '-', 'i', 'n']

/-- A character that is taken for nothing but a digit. -/
def IsPlain (c : Char) : Prop := isWhite c = false ∧ c.toLower = c ∧ c ∉ marks

/-- The digits are plain characters. -/
def IsDigits (digit : Char → Option Nat) : Prop := ∀ c, (digit c).isSome → IsPlain c

theorem asciiDigit_plain {c : Char} (h : c.isDigit = true) : IsPlain c := by
  have all : ∀ k : Fin 10, isWhite (Nat.digitChar k) = false ∧
      (Nat.digitChar k).toLower = Nat.digitChar k ∧ Nat.digitChar k ∉ marks := by decide +kernel
  obtain ⟨k, rfl⟩ := digit_char h
  exact all k

theorem zeros_large : ∀ start ∈ zeros, ∀ i : Fin 10, 0x80 ≤ start + i.val →
    inRanges [(0x9, 0xD), (0x20, 0x20), (0x85, 0x85), (0xA0, 0xA0), (0x1680, 0x1680),
      (0x2000, 0x200A), (0x2028, 0x2029), (0x202F, 0x202F), (0x205F, 0x205F),
      (0x3000, 0x3000)] (start + i.val) = false := by
  decide +kernel

/-- The digits of all scripts are plain. -/
theorem digit?_plain : IsDigits digit? := by
  intro c found
  unfold digit? at found
  split at found
  · unfold asciiDigit? at found
    split at found
    · rename_i ascii
      exact asciiDigit_plain ascii
    · cases found
  · rename_i large
    simp only [Option.isSome_map, List.find?_isSome, Bool.and_eq_true, decide_eq_true_eq] at found
    obtain ⟨start, known, low, high⟩ := found
    have white := zeros_large start known ⟨c.toNat - start, by omega⟩ (by dsimp only; omega)
    dsimp only at white
    rw [Nat.add_sub_cancel' low] at white
    refine ⟨white, ?_, ?_⟩
    · have unchanged : ¬(c.val ≥ 'A'.val ∧ c.val ≤ 'Z'.val) := by
        rintro ⟨-, upper⟩
        have : c.toNat ≤ 90 := upper
        omega
      unfold Char.toLower
      rw [dif_neg unchanged]
    · intro mark
      have small : marks.all (·.toNat < 0x80) = true := by decide
      exact large (of_decide_eq_true (List.all_eq_true.mp small c mark))

/-! ## Numerals -/

theorem IsNumeral.head {l : List Char} {values : List Nat} (h : IsNumeral digit l values) :
    ∃ c rest, l = c :: rest ∧ (digit c).isSome := by
  cases h with
  | last read => exact ⟨_, _, rfl, by simp [read]⟩
  | next read => exact ⟨_, _, rfl, by simp [read]⟩
  | parted read => exact ⟨_, _, rfl, by simp [read]⟩

/-- A numeral holds digits and underscores. -/
theorem IsNumeral.chars {l : List Char} {values : List Nat} (h : IsNumeral digit l values) :
    ∀ c ∈ l, (digit c).isSome ∨ c = '_' := by
  induction h with
  | last read => simp [read]
  | next read _ ih => simpa [read] using ih
  | parted read _ ih => simpa [read] using ih

theorem digits?_sound {l : List Char} {values : List Nat} (h : digits? digit l = some values) :
    IsNumeral digit l values := by
  fun_induction digits? digit l generalizing values with
  | case1 => cases h
  | case2 c =>
    obtain ⟨value, read, rfl⟩ := Option.map_eq_some_iff.mp h
    exact .last read
  | case3 c rest ih =>
    obtain ⟨value, read, h⟩ := Option.bind_eq_some_iff.mp h
    obtain ⟨others, more, h⟩ := Option.bind_eq_some_iff.mp h
    cases h
    exact .parted read (ih more)
  | case4 c rest _ _ ih =>
    obtain ⟨value, read, h⟩ := Option.bind_eq_some_iff.mp h
    obtain ⟨others, more, h⟩ := Option.bind_eq_some_iff.mp h
    cases h
    exact .next read (ih more)

theorem digits?_complete (plain : IsDigits digit) {l : List Char} {values : List Nat}
    (h : IsNumeral digit l values) : digits? digit l = some values := by
  induction h with
  | last read => simp [digits?, read]
  | parted read _ ih => simp [digits?, read, ih]
  | next read more ih =>
    -- What follows starts with a digit, so it is not taken for an underscore.
    obtain ⟨c, rest, rfl, first⟩ := more.head
    have other : c ≠ '_' := by
      rintro rfl
      exact (plain '_' first).2.2 (by decide)
    rw [digits?]
    · simp [read, ih]
    · simp
    · rintro _ ⟨⟩
      exact other rfl

theorem optionalDigits?_sound {l : List Char} {values : List Nat}
    (h : optionalDigits? digit l = some values) : IsPart digit l values := by
  unfold optionalDigits? at h
  split at h
  · rename_i empty
    cases h
    exact .inl ⟨List.isEmpty_iff.mp empty, rfl⟩
  · exact .inr (digits?_sound h)

theorem optionalDigits?_complete (plain : IsDigits digit) {l : List Char} {values : List Nat}
    (h : IsPart digit l values) : optionalDigits? digit l = some values := by
  unfold optionalDigits?
  rcases h with ⟨rfl, rfl⟩ | numeral
  · rfl
  · obtain ⟨c, rest, rfl, -⟩ := numeral.head
    exact digits?_complete plain numeral

theorem IsPart.chars {l : List Char} {values : List Nat} (h : IsPart digit l values) :
    ∀ c ∈ l, (digit c).isSome ∨ c = '_' := by
  rcases h with ⟨rfl, rfl⟩ | numeral
  · simp
  · exact numeral.chars

/-! ## Signs, fractions and exponents -/

theorem sign_sound (l : List Char) :
    ∃ front, l = front ++ (sign l).2 ∧ IsSign front (sign l).1 := by
  unfold sign
  split
  · exact ⟨['-'], rfl, .minus⟩
  · exact ⟨['+'], rfl, .plus⟩
  · exact ⟨[], rfl, .none⟩

theorem sign_complete {front l : List Char} {negative : Bool} (signs : IsSign front negative)
    (other : ∀ c ∈ l.head?, c ≠ '-' ∧ c ≠ '+') : sign (front ++ l) = (negative, l) := by
  cases signs with
  | plus => rfl
  | minus => rfl
  | none =>
    cases l with
    | nil => rfl
    | cons c rest =>
      have unsigned := other c rfl
      unfold sign
      split
      · rename_i same
        cases same
        exact absurd rfl unsigned.1
      · rename_i same
        cases same
        exact absurd rfl unsigned.2
      · rfl

theorem digit_unsigned (plain : IsDigits digit) {c : Char} (found : (digit c).isSome) :
    c ≠ '-' ∧ c ≠ '+' := by
  have outside := (plain c found).2.2
  constructor
  · rintro rfl
    exact outside (by decide)
  · rintro rfl
    exact outside (by decide)

theorem IsNumeral.unsigned (plain : IsDigits digit) {l : List Char} {values : List Nat}
    (h : IsNumeral digit l values) : ∀ c ∈ l.head?, c ≠ '-' ∧ c ≠ '+' := by
  obtain ⟨c, rest, rfl, first⟩ := h.head
  rintro _ ⟨⟩
  exact digit_unsigned plain first

theorem fraction_sound {l : List Char} {values : List Nat}
    (h : optionalDigits? digit ((l.dropWhile (· ≠ '.')).drop 1) = some values) :
    IsFraction digit (l.dropWhile (· ≠ '.')) values := by
  cases rest : l.dropWhile (· ≠ '.') with
  | nil =>
    rw [rest] at h
    cases h
    exact .none
  | cons c behind =>
    have point : c = '.' := by
      have first := List.head?_dropWhile_not (fun c : Char => decide (c ≠ '.')) l
      rw [rest] at first
      simpa using first
    rw [rest] at h
    rw [point]
    exact .point (optionalDigits?_sound h)

/-- A text is cut where the first character is that does not satisfy `p`. -/
theorem cut_at {p : Char → Bool} {front behind : List Char} (satisfy : ∀ c ∈ front, p c = true)
    (ends : ∀ c ∈ behind.head?, p c = false) :
    (front ++ behind).takeWhile p = front ∧ (front ++ behind).dropWhile p = behind := by
  rw [List.takeWhile_append_of_pos satisfy, List.dropWhile_append_of_pos satisfy]
  cases behind with
  | nil => simp
  | cons c rest => simp [ends c rfl]

/-- A digit or an underscore is none of the marks that end a part of a literal. -/
theorem part_unmarked (plain : IsDigits digit) {c mark : Char} (h : (digit c).isSome ∨ c = '_')
    (ends : mark ∈ marks) (other : mark ≠ '_') : c ≠ mark := by
  rintro rfl
  rcases h with found | underscore
  · exact (plain c found).2.2 ends
  · exact other underscore

theorem IsFraction.chars {l : List Char} {values : List Nat} (h : IsFraction digit l values) :
    ∀ c ∈ l, ((digit c).isSome ∨ c = '_') ∨ c = '.' := by
  cases h with
  | none => simp
  | point part =>
    rintro c (_ | ⟨_, member⟩)
    · exact .inr rfl
    · exact .inl (part.chars c member)

/-- A mantissa is cut at its point. -/
theorem mantissa_parts (plain : IsDigits digit) {whole fraction : List Char}
    {front behind : List Nat} (part : IsPart digit whole front)
    (point : IsFraction digit fraction behind) :
    (whole ++ fraction).takeWhile (· ≠ '.') = whole ∧
      optionalDigits? digit (((whole ++ fraction).dropWhile (· ≠ '.')).drop 1) = some behind := by
  have unpointed : ∀ c ∈ whole, decide (c ≠ '.') = true := fun c member =>
    decide_eq_true (part_unmarked plain (part.chars c member) (by decide) (by decide))
  have pointed : ∀ c ∈ fraction.head?, decide (c ≠ '.') = false := by
    cases point <;> simp
  obtain ⟨first, second⟩ := cut_at unpointed pointed
  refine ⟨first, ?_⟩
  rw [second]
  cases point with
  | none => rfl
  | point part => exact optionalDigits?_complete plain part

/-- The exponent that the rest of a literal behind its mantissa stands for. -/
def power? (digit : Char → Option Nat) : List Char → Option Int
  | [] => some 0
  | _ :: l =>
    (digits? digit (sign l).2).map fun values => signed (sign l).1 (ofDigits 10 values)

theorem power?_sound {l : List Char} {exponent : Int}
    (marked : ∀ c ∈ l.head?, c = 'e' ∨ c = 'E') (h : power? digit l = some exponent) :
    IsExponent digit l exponent := by
  cases l with
  | nil =>
    cases h
    exact .none
  | cons mark power =>
    obtain ⟨values, read, rfl⟩ := Option.map_eq_some_iff.mp h
    obtain ⟨front, whole, signs⟩ := sign_sound power
    have scale : IsExponent digit (mark :: (front ++ (sign power).2)) _ :=
      .power (marked mark rfl) signs (digits?_sound read)
    rwa [← whole] at scale

theorem power?_complete (plain : IsDigits digit) {l : List Char} {exponent : Int}
    (h : IsExponent digit l exponent) : power? digit l = some exponent := by
  cases h with
  | none => rfl
  | power marks signs numeral =>
    simp only [power?, sign_complete signs (numeral.unsigned plain),
      digits?_complete plain numeral, Option.map_some]

/-! ## Literals -/

def isMantissa (c : Char) : Bool := c ≠ 'e' && c ≠ 'E'

/-- A literal that is no word is read as a mantissa and an exponent. -/
theorem magnitude?_eq (digit : Char → Option Nat) (negative : Bool) (l : List Char) :
    magnitude? digit negative l =
      if l.map Char.toLower ∈ ["inf".toList, "infinity".toList] then some (.infinite negative)
      else if l.map Char.toLower = "nan".toList then some .nan
      else
        (optionalDigits? digit ((l.takeWhile isMantissa).takeWhile (· ≠ '.'))).bind fun front =>
          (optionalDigits? digit
            (((l.takeWhile isMantissa).dropWhile (· ≠ '.')).drop 1)).bind fun behind =>
              if front ++ behind = [] then none
              else (power? digit (l.dropWhile isMantissa)).map fun exponent =>
                .ofDecimal negative (ofDigits 10 (front ++ behind)) (exponent - behind.length) := by
  have worded (word : String) :
      (String.ofList l).map Char.toLower = word ↔ l.map Char.toLower = word.toList := by
    rw [← String.toList_inj, String.toList_map, String.toList_ofList]
  have infinite : ((String.ofList l).map Char.toLower = "inf" ∨
      (String.ofList l).map Char.toLower = "infinity") ↔
        l.map Char.toLower ∈ ["inf".toList, "infinity".toList] := by
    simp only [worded, List.mem_cons, List.not_mem_nil, or_false]
  unfold magnitude?
  refine if_congr infinite rfl (if_congr (worded "nan") rfl ?_)
  show (optionalDigits? digit ((l.takeWhile isMantissa).takeWhile (· ≠ '.'))).bind _ = _
  congr 1
  funext front
  show (optionalDigits? digit (((l.takeWhile isMantissa).dropWhile (· ≠ '.')).drop 1)).bind _ = _
  congr 1
  funext behind
  by_cases none : front ++ behind = []
  · obtain ⟨rfl, rfl⟩ := List.append_eq_nil_iff.mp none
    rfl
  · have filled : (!(front.isEmpty && behind.isEmpty)) = true := by
      cases front <;> cases behind <;> simp_all
    rw [if_neg none, filled]
    show (match l.dropWhile isMantissa with
      | [] => _
      | _ :: power => _) = _
    cases l.dropWhile isMantissa with
    | nil => rfl
    | cons mark power =>
      unfold power?
      dsimp only
      cases digits? digit (sign power).2 <;> rfl

theorem magnitude?_sound {negative : Bool} {l : List Char} {x : Binary64}
    (h : magnitude? digit negative l = some x) : IsMagnitude digit negative l x := by
  rw [magnitude?_eq] at h
  split at h
  · rename_i word
    cases h
    exact .infinite word
  · split at h
    · rename_i word
      cases h
      exact .undefined word
    · obtain ⟨front, first, h⟩ := Option.bind_eq_some_iff.mp h
      obtain ⟨behind, second, h⟩ := Option.bind_eq_some_iff.mp h
      split at h
      · cases h
      · rename_i filled
        obtain ⟨exponent, third, rfl⟩ := Option.map_eq_some_iff.mp h
        have marked : ∀ c ∈ (l.dropWhile isMantissa).head?, c = 'e' ∨ c = 'E' := by
          intro c head
          have outside := List.head?_dropWhile_not isMantissa l
          rw [head] at outside
          simpa [isMantissa, or_iff_not_imp_left] using outside
        have literal : IsMagnitude digit negative _ _ :=
          .decimal (optionalDigits?_sound first) (fraction_sound second) filled
            (power?_sound marked third)
        rwa [List.takeWhile_append_dropWhile, List.takeWhile_append_dropWhile] at literal

/-- A decimal starts with a digit or with its point. -/
theorem decimal_head {whole fraction : List Char} {front behind : List Nat}
    (part : IsPart digit whole front) (point : IsFraction digit fraction behind)
    (filled : front ++ behind ≠ []) (power : List Char) :
    ∃ c rest, whole ++ fraction ++ power = c :: rest ∧ ((digit c).isSome ∨ c = '.') := by
  rcases part with ⟨rfl, rfl⟩ | numeral
  · cases point with
    | none => exact absurd rfl filled
    | point part => exact ⟨'.', _, rfl, .inr rfl⟩
  · obtain ⟨c, rest, rfl, read⟩ := numeral.head
    exact ⟨c, _, rfl, .inl read⟩

/-- So it is no word. -/
theorem decimal_unworded (plain : IsDigits digit) {whole fraction power : List Char}
    {front behind : List Nat} (part : IsPart digit whole front)
    (point : IsFraction digit fraction behind) (filled : front ++ behind ≠ []) {letter : Char}
    {word : List Char} (letters : letter = 'i' ∨ letter = 'n') :
    (whole ++ fraction ++ power).map Char.toLower ≠ letter :: word := by
  intro same
  obtain ⟨c, rest, starts, head⟩ := decimal_head part point filled power
  rw [starts, List.map_cons, List.cons.injEq] at same
  rcases head with read | rfl
  · obtain ⟨-, lower, outside⟩ := plain c read
    rw [← lower, same.1] at outside
    rcases letters with rfl | rfl <;> exact outside (by decide)
  · rcases letters with rfl | rfl <;> exact absurd same.1 (by decide)

theorem magnitude?_complete (plain : IsDigits digit) {negative : Bool} {l : List Char}
    {x : Binary64} (h : IsMagnitude digit negative l x) : magnitude? digit negative l = some x := by
  rw [magnitude?_eq]
  cases h with
  | infinite word => rw [if_pos word]
  | undefined word =>
    rw [if_neg (by rw [word]; decide), if_pos word]
  | @decimal whole fraction power front behind exponent part point filled scale =>
    have finite : (whole ++ fraction ++ power).map Char.toLower ∉
        ["inf".toList, "infinity".toList] := by
      intro word
      rcases List.mem_cons.mp word with same | other
      · exact decimal_unworded plain part point filled (.inl rfl) same
      · exact decimal_unworded plain part point filled (.inl rfl) (List.mem_singleton.mp other)
    have defined : (whole ++ fraction ++ power).map Char.toLower ≠ "nan".toList :=
      decimal_unworded plain part point filled (.inr rfl)
    have mantissa : ∀ c ∈ whole ++ fraction, isMantissa c = true := by
      intro c member
      have known : ((digit c).isSome ∨ c = '_') ∨ c = '.' := by
        rcases List.mem_append.mp member with left | right
        · exact .inl (part.chars c left)
        · exact point.chars c right
      rcases known with known | rfl
      · have lower : c ≠ 'e' := part_unmarked plain known (by decide) (by decide)
        have upper : c ≠ 'E' := part_unmarked plain known (by decide) (by decide)
        simp [isMantissa, lower, upper]
      · rfl
    have marked : ∀ c ∈ power.head?, isMantissa c = false := by
      cases scale with
      | none => simp
      | power marks =>
        rintro _ ⟨⟩
        rcases marks with rfl | rfl <;> rfl
    obtain ⟨first, second⟩ := cut_at mantissa marked
    obtain ⟨third, fourth⟩ := mantissa_parts plain part point
    rw [if_neg finite, if_neg defined, first, second, third, fourth,
      optionalDigits?_complete plain part, power?_complete plain scale]
    simp only [Option.bind_some, if_neg filled, Option.map_some]

/-! ## White space -/

/-- What a text is stripped of stands before and behind what is left. -/
theorem strip_sound (p : Char → Bool) (l : List Char) :
    ∃ before after, l = before ++ strip p l ++ after ∧ before.all p ∧ after.all p := by
  refine ⟨l.takeWhile p, (l.dropWhile p).rtakeWhile p, ?_, ?_, ?_⟩
  · have behind : (l.dropWhile p).rdropWhile p ++ (l.dropWhile p).rtakeWhile p = l.dropWhile p :=
      List.rdropWhile_append_rtakeWhile
    have whole : strip p l = (l.dropWhile p).rdropWhile p := rfl
    rw [whole, List.append_assoc, behind, List.takeWhile_append_dropWhile]
  · rw [List.all_eq_true]
    exact fun c member => List.mem_takeWhile_imp member
  · rw [List.all_eq_true]
    exact fun c member => List.mem_rtakeWhile_imp member

theorem dropWhile_kept {p : Char → Bool} {l : List Char} (kept : ∀ c ∈ l, p c = false) :
    l.dropWhile p = l := by
  cases l with
  | nil => rfl
  | cons c rest => simp [kept c List.mem_cons_self]

theorem strip_complete {p : Char → Bool} {before l after : List Char} (first : before.all p)
    (last : after.all p) (kept : ∀ c ∈ l, p c = false) : strip p (before ++ l ++ after) = l := by
  rw [List.all_eq_true] at first last
  cases l with
  | nil =>
    have all : ∀ c ∈ before ++ [] ++ after, p c = true := by
      intro c member
      rcases List.mem_append.mp member with left | right
      · exact first c (by simpa using left)
      · exact last c right
    unfold strip
    rw [List.dropWhile_eq_nil_iff.mpr all]
    rfl
  | cons c rest =>
    have head : (c :: rest ++ after).dropWhile p = c :: rest ++ after := by
      simp [kept c List.mem_cons_self]
    have tail : ∀ c ∈ after.reverse, p c = true := by simpa using last
    have same : (c :: rest).reverse.dropWhile p = (c :: rest).reverse :=
      dropWhile_kept fun d member => kept d (List.mem_reverse.mp member)
    unfold strip
    rw [List.append_assoc, List.dropWhile_append_of_pos first, head, List.reverse_append,
      List.dropWhile_append_of_pos tail, same, List.reverse_reverse]

theorem white_lower {c : Char} (white : isWhite c = true) : c.toLower = c := by
  unfold Char.toLower
  rw [dif_neg]
  rintro ⟨low, high⟩
  have low : 65 ≤ c.toNat := low
  have high : c.toNat ≤ 90 := high
  simp [isWhite, inRanges] at white
  omega

theorem word_dark {l word : List Char} (h : l.map Char.toLower = word)
    (dark : word.any isWhite = false) : ∀ c ∈ l, isWhite c = false := by
  intro c member
  cases white : isWhite c with
  | false => rfl
  | true =>
    have inside : c.toLower ∈ word := by
      rw [← h]
      exact List.mem_map_of_mem member
    rw [white_lower white] at inside
    exact absurd white (List.any_eq_false.mp dark c inside)

theorem IsNumeral.dark (plain : IsDigits digit) {l : List Char} {values : List Nat}
    (h : IsNumeral digit l values) : ∀ c ∈ l, isWhite c = false := by
  intro c member
  rcases h.chars c member with found | rfl
  · exact (plain c found).1
  · rfl

theorem IsPart.dark (plain : IsDigits digit) {l : List Char} {values : List Nat}
    (h : IsPart digit l values) : ∀ c ∈ l, isWhite c = false := by
  rcases h with ⟨rfl, rfl⟩ | numeral
  · simp
  · exact numeral.dark plain

theorem IsSign.dark {l : List Char} {negative : Bool} (h : IsSign l negative) :
    ∀ c ∈ l, isWhite c = false := by
  have signs : l.any isWhite = false := by
    cases h <;> decide
  simpa using signs

/-- There is no white space inside a literal. -/
theorem IsMagnitude.dark (plain : IsDigits digit) {negative : Bool} {l : List Char}
    {x : Binary64} (h : IsMagnitude digit negative l x) : ∀ c ∈ l, isWhite c = false := by
  cases h with
  | infinite word =>
    rcases List.mem_cons.mp word with same | other
    · exact word_dark same (by decide)
    · exact word_dark (List.mem_singleton.mp other) (by decide)
  | undefined word => exact word_dark word (by decide)
  | decimal part point filled scale =>
    intro c member
    rcases List.mem_append.mp member with mantissa | power
    · rcases List.mem_append.mp mantissa with whole | fraction
      · exact part.dark plain c whole
      · cases point with
        | none => cases fraction
        | point part =>
          rcases List.mem_cons.mp fraction with rfl | digit
          · rfl
          · exact part.dark plain c digit
    · cases scale with
      | none => cases power
      | power marks signs numeral =>
        rcases List.mem_cons.mp power with rfl | rest
        · rcases marks with rfl | rfl <;> rfl
        · rcases List.mem_append.mp rest with front | digit
          · exact signs.dark c front
          · exact numeral.dark plain c digit

theorem word_unsigned {l word : List Char} {letter : Char}
    (h : l.map Char.toLower = letter :: word) (letters : letter = 'i' ∨ letter = 'n') :
    ∀ c ∈ l.head?, c ≠ '-' ∧ c ≠ '+' := by
  cases l with
  | nil => simp
  | cons c rest =>
    obtain ⟨rfl, -⟩ := List.cons.inj h
    rintro _ ⟨⟩
    constructor
    · rintro rfl
      revert letters
      decide
    · rintro rfl
      revert letters
      decide

/-- No literal starts with a second sign. -/
theorem IsMagnitude.unsigned (plain : IsDigits digit) {negative : Bool} {l : List Char}
    {x : Binary64} (h : IsMagnitude digit negative l x) : ∀ c ∈ l.head?, c ≠ '-' ∧ c ≠ '+' := by
  cases h with
  | infinite word =>
    rcases List.mem_cons.mp word with same | other
    · exact word_unsigned same (.inl rfl)
    · exact word_unsigned (List.mem_singleton.mp other) (.inl rfl)
  | undefined word => exact word_unsigned word (.inr rfl)
  | @decimal whole fraction power _ _ _ part point filled scale =>
    obtain ⟨c, rest, starts, head⟩ := decimal_head part point filled power
    rw [starts]
    rintro _ ⟨⟩
    rcases head with read | rfl
    · exact digit_unsigned plain read
    · decide

/-! ## The reader -/

/-- The reader of decimals reads the literals and nothing else. -/
theorem decimal?_iff (plain : IsDigits digit) {text : String} {x : Binary64} :
    decimal? digit text = some x ↔ Denotes digit text x := by
  constructor
  · intro read
    obtain ⟨before, after, whole, first, last⟩ := strip_sound isWhite text.toList
    obtain ⟨front, core, signs⟩ := sign_sound (strip isWhite text.toList)
    rw [core] at whole
    exact ⟨before, front, _, after, _, whole, first, last, signs, magnitude?_sound read⟩
  · rintro ⟨before, front, l, after, negative, whole, first, last, signs, literal⟩
    have dark : ∀ c ∈ front ++ l, isWhite c = false := by
      intro c member
      rcases List.mem_append.mp member with left | right
      · exact signs.dark c left
      · exact literal.dark plain c right
    unfold decimal?
    rw [whole, strip_complete first last dark, sign_complete signs (literal.unsigned plain)]
    exact magnitude?_complete plain literal

end LakeAdmin.Literal
