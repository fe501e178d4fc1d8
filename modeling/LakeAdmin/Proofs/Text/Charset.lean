import LakeAdmin.Proofs.Text.Utf8
import LakeAdmin.Text.Charset

/-!
How a text shows which encoding it is in. A text that starts with a character of ASCII, with no
zero behind it, is told by its first bytes in every encoding, with or without the byte order
mark, and is then read in the encoding that it is written in.
-/

namespace LakeAdmin

/-! ## Code points -/

namespace Point

theorem ofNat_small {n : Nat} (h : 0 < (Char.ofNat n).toNat) : (Char.ofNat n).toNat = n := by
  unfold Char.ofNat at h ⊢
  by_cases valid : n.isValidChar
  · rw [dif_pos valid]
    rfl
  · rw [dif_neg valid] at h
    exact absurd h (by decide)

theorem ofCode_ascii {n : Nat} {c : Char} (low : 0 < c.toNat) (h : ofCode n = .char c) :
    n = c.toNat := by
  unfold ofCode at h
  split at h
  · cases h
  · obtain rfl := Point.char.inj h
    exact (ofNat_small low).symm

theorem ofPair_large {high low : Nat} {c : Char} (first : isHigh high = true)
    (second : isLow low = true) (h : ofPair high low = .char c) : 0x80 ≤ c.toNat := by
  simp only [isHigh, isLow, Bool.and_eq_true, decide_eq_true_eq] at first second
  obtain rfl := Point.char.inj h
  have value : (Char.ofNat (0x10000 + (high - 0xD800) * 0x400 + (low - 0xDC00))).toNat =
      0x10000 + (high - 0xD800) * 0x400 + (low - 0xDC00) := Text.Utf8.toNat_char (by omega)
  omega

/-- A character of ASCII is written in one unit. -/
theorem join_ascii {units : List Nat} {c : Char} {rest : List Point} (low : 0 < c.toNat)
    (high : c.toNat < 0x80) (h : join units = .char c :: rest) :
    ∃ others, units = c.toNat :: others ∧ join others = rest := by
  match units with
  | [] => cases h
  | [unit] =>
    obtain ⟨same, rfl⟩ := List.cons.inj h
    exact ⟨[], by rw [← ofCode_ascii low same], rfl⟩
  | unit :: next :: more =>
    rw [join] at h
    split at h
    · rename_i pair
      rw [Bool.and_eq_true] at pair
      have large := ofPair_large pair.1 pair.2 (List.cons.inj h).1
      omega
    · obtain ⟨same, behind⟩ := List.cons.inj h
      exact ⟨next :: more, by rw [← ofCode_ascii low same], behind⟩

theorem join_zero (units : List Nat) : ∃ rest, join (0 :: units) = .char '\x00' :: rest := by
  cases units with
  | nil => exact ⟨[], rfl⟩
  | cons next more => exact ⟨join (next :: more), rfl⟩

end Point

namespace Text

namespace Charset

/-- What may stand before a text: nothing, or the byte order mark. -/
def Leads (charset : Charset) (front : List UInt8) : Prop := front = [] ∨ front = charset.mark

/-- A text that starts with a character of ASCII other than zero, and has no zero behind it. -/
def Starts (l : List Point) : Prop :=
  ∃ c rest, l = .char c :: rest ∧ 0 < c.toNat ∧ c.toNat < 0x80 ∧
    ∀ d ∈ rest.head?, d ≠ .char '\x00'

/-! ## What is detected -/

/-- What is detected stands in front. -/
theorem detect_leads (bytes : List UInt8) :
    ∃ front, (detect bytes).1.Leads front ∧ bytes = front ++ bytes.drop (detect bytes).2 := by
  unfold detect
  cases found : all.find? fun charset => charset.mark.isPrefixOf bytes with
  | none => exact ⟨[], .inl rfl, rfl⟩
  | some charset =>
    have matched : charset.mark.isPrefixOf bytes = true := by simpa using List.find?_some found
    have leads := List.isPrefixOf_iff_prefix.mp matched
    exact ⟨charset.mark, .inr rfl, (List.prefix_iff_eq_append.mp leads).symm⟩

/-- The mark of an encoding shows it, unless it is the start of a longer mark. -/
theorem detect_marked {charset : Charset} {bytes : List UInt8}
    (whole : charset = utf16 false → ¬[0, 0] <+: bytes) :
    detect (charset.mark ++ bytes) = (charset, charset.mark.length) := by
  cases charset with
  | utf8 => rfl
  | utf32 bigEndian => cases bigEndian <;> rfl
  | utf16 bigEndian =>
    cases bigEndian with
    | true => rfl
    | false =>
      have longer : (utf32 false).mark.isPrefixOf ((utf16 false).mark ++ bytes) = false := by
        rw [Bool.eq_false_iff, ne_eq, List.isPrefixOf_iff_prefix]
        intro leads
        exact whole rfl ((List.prefix_append_right_inj (utf16 false).mark).mp leads)
      have found : all.find? (·.mark.isPrefixOf ((utf16 false).mark ++ bytes)) =
          some (utf16 false) := by
        refine List.find?_eq_some_iff_append.mpr
          ⟨rfl, [utf32 true, utf32 false, utf16 true], [utf8], rfl, ?_⟩
        simp only [List.forall_mem_cons, longer]
        exact ⟨rfl, rfl, rfl, List.forall_mem_nil _⟩
      rw [detect, found]

theorem detect_unmarked {bytes : List UInt8}
    (plain : ∀ charset : Charset, ¬charset.mark <+: bytes) :
    detect bytes = (unmarked bytes, 0) := by
  have none : (all.find? fun charset => charset.mark.isPrefixOf bytes) = none := by
    rw [List.find?_eq_none]
    intro charset _ leads
    exact plain charset (List.isPrefixOf_iff_prefix.mp leads)
  rw [detect, none]

theorem mark_head (charset : Charset) :
    ∃ a more, charset.mark = a :: more ∧ (a = 0 ∨ 0xEF ≤ a.toNat) := by
  cases charset with
  | utf8 => exact ⟨_, _, rfl, .inr (by decide)⟩
  | utf16 bigEndian => cases bigEndian <;> exact ⟨_, _, rfl, .inr (by decide)⟩
  | utf32 bigEndian =>
    cases bigEndian with
    | true => exact ⟨_, _, rfl, .inl rfl⟩
    | false => exact ⟨_, _, rfl, .inr (by decide)⟩

/-- No mark starts with a byte of ASCII other than zero. -/
theorem detect_low {b : UInt8} {rest : List UInt8} (low : 0 < b.toNat) (high : b.toNat < 0xEF) :
    detect (b :: rest) = (unmarked (b :: rest), 0) := by
  refine detect_unmarked fun charset leads => ?_
  obtain ⟨a, more, starts, large⟩ := mark_head charset
  rw [starts, List.cons_prefix_cons] at leads
  obtain ⟨rfl, -⟩ := leads
  rcases large with rfl | large
  · cases low
  · omega

/-- The one mark that starts with a zero byte has a third byte that is none. -/
theorem detect_zero {b : UInt8} {rest : List UInt8} (other : b = 0 → rest.head? = some 0) :
    detect (0 :: b :: rest) = (unmarked (0 :: b :: rest), 0) := by
  refine detect_unmarked fun charset leads => ?_
  match charset with
  | utf8 => exact absurd (List.cons_prefix_cons.mp leads).1 (by decide)
  | utf16 true => exact absurd (List.cons_prefix_cons.mp leads).1 (by decide)
  | utf16 false => exact absurd (List.cons_prefix_cons.mp leads).1 (by decide)
  | utf32 false => exact absurd (List.cons_prefix_cons.mp leads).1 (by decide)
  | utf32 true =>
    obtain ⟨second, behind⟩ := List.cons_prefix_cons.mp (List.cons_prefix_cons.mp leads).2
    obtain ⟨c, more, rfl⟩ := List.exists_cons_of_ne_nil (behind.ne_nil (List.cons_ne_nil _ _))
    have third := (List.cons_prefix_cons.mp behind).1
    rw [Option.some.inj (other second.symm)] at third
    exact absurd third (by decide)

theorem detect_utf8 {b : UInt8} {rest : List UInt8} (low : 0 < b.toNat) (high : b.toNat < 0xEF)
    (visible : ∀ x ∈ rest.head?, x ≠ 0) : detect (b :: rest) = (utf8, 0) := by
  have known : b ≠ 0 := by
    rintro rfl
    cases low
  rw [detect_low low high]
  match rest with
  | [] => rfl
  | [x] => simp [unmarked, known, visible x rfl]
  | [x, y] => rfl
  | x :: y :: z :: more => simp [unmarked, known, visible x rfl]

/-! ## What is read -/

theorem units_cons {bigEndian : Bool} {position : Nat} {bytes : List UInt8} {unit : Nat}
    {others : List Nat} (h : units bigEndian position bytes = .ok (unit :: others)) :
    ∃ a b rest, bytes = a :: b :: rest ∧ unit = ofBytes bigEndian [a, b] ∧
      units bigEndian (position + 2) rest = .ok others := by
  match bytes with
  | [] => cases h
  | [a] => cases h
  | a :: b :: rest =>
    unfold units at h
    cases read : units bigEndian (position + 2) rest with
    | error e =>
      rw [read] at h
      cases h
    | ok found =>
      rw [read] at h
      cases h
      exact ⟨a, b, rest, rfl, rfl, read⟩

theorem units_nil {bigEndian : Bool} {position : Nat} {bytes : List UInt8}
    (h : units bigEndian position bytes = .ok []) : bytes = [] := by
  match bytes with
  | [] => rfl
  | [a] => cases h
  | a :: b :: rest =>
    unfold units at h
    cases read : units bigEndian (position + 2) rest with
    | error e =>
      rw [read] at h
      cases h
    | ok found =>
      rw [read] at h
      cases h

theorem points_cons {bigEndian : Bool} {position : Nat} {bytes : List UInt8} {point : Nat}
    {others : List Nat} (h : points bigEndian position bytes = .ok (point :: others)) :
    ∃ a b c d rest, bytes = a :: b :: c :: d :: rest ∧
      point = ofBytes bigEndian [a, b, c, d] ∧ ¬0x110000 ≤ point ∧
        points bigEndian (position + 4) rest = .ok others := by
  unfold points at h
  split at h
  · cases h
  · rename_i a b c d rest
    dsimp only at h
    split at h
    · cases h
    · rename_i small
      cases read : points bigEndian (position + 4) rest with
      | error e =>
        rw [read] at h
        cases h
      | ok found =>
        rw [read] at h
        cases h
        exact ⟨a, b, c, d, rest, rfl, rfl, small, read⟩
  · cases h

theorem points_nil {bigEndian : Bool} {position : Nat} {bytes : List UInt8}
    (h : points bigEndian position bytes = .ok []) : bytes = [] := by
  unfold points at h
  split at h
  · rfl
  · rename_i a b c d rest
    dsimp only at h
    split at h
    · cases h
    · cases read : points bigEndian (position + 4) rest with
      | error e =>
        rw [read] at h
        cases h
      | ok found =>
        rw [read] at h
        cases h
  · cases h

theorem zero_byte {b : UInt8} (h : b.toNat = 0) : b = 0 := by
  rw [Utf8.uint8_eq h]
  rfl

theorem nonzero_byte {b : UInt8} (h : 0 < b.toNat) : b ≠ 0 := by
  rintro rfl
  cases h

/-- The bytes of a text in units of two start with those of its first character, and what follows
them is not all zeros. -/
theorem utf16_start {bigEndian : Bool} {position : Nat} {bytes : List UInt8} {l : List Point}
    (read : (utf16 bigEndian).decode position bytes = .ok l) (starts : Starts l) :
    ∃ b rest, 0 < b.toNat ∧ b.toNat < 0x80 ∧
      bytes = (if bigEndian then [0, b] else [b, 0]) ++ rest ∧
      (rest = [] ∨ ∃ x y more, rest = x :: y :: more ∧ ¬(x = 0 ∧ y = 0)) := by
  obtain ⟨c, rest, rfl, low, high, visible⟩ := starts
  cases found : units bigEndian position bytes with
  | error e =>
    rw [decode, found] at read
    cases read
  | ok all =>
    rw [decode, found] at read
    have joined : Point.join all = .char c :: rest := Except.ok.inj read
    obtain ⟨others, rfl, rfl⟩ := Point.join_ascii low high joined
    obtain ⟨a, b, behind, rfl, first, more⟩ := units_cons found
    have pair : behind = [] ∨ ∃ x y more, behind = x :: y :: more ∧ ¬(x = 0 ∧ y = 0) := by
      cases others with
      | nil => exact .inl (units_nil more)
      | cons next others =>
        obtain ⟨x, y, last, rfl, second, -⟩ := units_cons more
        refine .inr ⟨x, y, last, rfl, ?_⟩
        rintro ⟨rfl, rfl⟩
        have zero : next = 0 := by cases bigEndian <;> exact second
        obtain ⟨end', same⟩ := Point.join_zero others
        rw [zero, same] at visible
        exact visible _ rfl rfl
    cases bigEndian with
    | true =>
      have value : a.toNat * 256 + b.toNat = c.toNat := by simpa [ofBytes] using first.symm
      have zero : a = 0 := zero_byte (by omega)
      subst zero
      exact ⟨b, behind, by simp at value; omega, by simp at value; omega, rfl, pair⟩
    | false =>
      have value : b.toNat * 256 + a.toNat = c.toNat := by simpa [ofBytes] using first.symm
      have zero : b = 0 := zero_byte (by omega)
      subst zero
      exact ⟨a, behind, by simp at value; omega, by simp at value; omega, rfl, pair⟩

theorem utf32_start {bigEndian : Bool} {position : Nat} {bytes : List UInt8} {l : List Point}
    (read : (utf32 bigEndian).decode position bytes = .ok l) (starts : Starts l) :
    ∃ b rest, 0 < b.toNat ∧ b.toNat < 0x80 ∧
      bytes = (if bigEndian then [0, 0, 0, b] else [b, 0, 0, 0]) ++ rest := by
  obtain ⟨c, rest, rfl, low, high, -⟩ := starts
  cases found : points bigEndian position bytes with
  | error e =>
    rw [decode, found] at read
    cases read
  | ok all =>
    rw [decode, found] at read
    have mapped : all.map Point.ofCode = .char c :: rest := Except.ok.inj read
    obtain ⟨point, others, rfl, same, -⟩ := List.map_eq_cons_iff.mp mapped
    obtain ⟨w, x, y, z, behind, rfl, first, -, -⟩ := points_cons found
    rw [Point.ofCode_ascii low same] at first
    generalize c.toNat = n at low high first
    cases bigEndian with
    | true =>
      have value : ((w.toNat * 256 + x.toNat) * 256 + y.toNat) * 256 + z.toNat = n := by
        simpa [ofBytes] using first.symm
      have zeros : w = 0 ∧ x = 0 ∧ y = 0 :=
        ⟨zero_byte (by omega), zero_byte (by omega), zero_byte (by omega)⟩
      obtain ⟨rfl, rfl, rfl⟩ := zeros
      exact ⟨z, behind, by simp at value; omega, by simp at value; omega, rfl⟩
    | false =>
      have value : ((z.toNat * 256 + y.toNat) * 256 + x.toNat) * 256 + w.toNat = n := by
        simpa [ofBytes] using first.symm
      have zeros : x = 0 ∧ y = 0 ∧ z = 0 :=
        ⟨zero_byte (by omega), zero_byte (by omega), zero_byte (by omega)⟩
      obtain ⟨rfl, rfl, rfl⟩ := zeros
      exact ⟨w, behind, by simp at value; omega, by simp at value; omega, rfl⟩

/-- The bytes of a text in UTF-8 start with its first character, and no zero follows. -/
theorem utf8_start {position : Nat} {bytes : List UInt8} {l : List Point}
    (read : utf8.decode position bytes = .ok l) (starts : Starts l) :
    ∃ b rest, 0 < b.toNat ∧ b.toNat < 0x80 ∧ bytes = b :: rest ∧ ∀ x ∈ rest.head?, x ≠ 0 := by
  obtain ⟨c, rest, rfl, low, high, visible⟩ := starts
  cases found : Utf8.pass bytes with
  | error e =>
    rw [decode, found] at read
    cases read
  | ok all =>
    rw [decode, found] at read
    cases read
    cases bytes with
    | nil => cases found
    | cons b behind =>
      have single : String.utf8EncodeChar c = [UInt8.ofNat c.toNat] := by
        have one := Utf8.encode_one high
        rwa [Char.ofNat_toNat] at one
      rcases Utf8.decodeFrom_cons found with
        ⟨d, size, others, front, same, more⟩ | ⟨_, _, instead, taken, _, _, placed, same, -⟩
      · obtain ⟨⟨rfl⟩, rfl⟩ := List.cons.inj same
        obtain ⟨tail, after, rfl, written, rfl⟩ := Utf8.step_reads front
        rw [single] at written
        obtain ⟨rfl, rfl⟩ := List.cons.inj written
        have value : (UInt8.ofNat c.toNat).toNat = c.toNat := Utf8.toNat_ofNat (by omega)
        refine ⟨_, after, by omega, by omega, rfl, ?_⟩
        intro x head zero
        subst zero
        obtain ⟨last, rfl⟩ : ∃ last, after = 0 :: last := by
          cases after with
          | nil => cases head
          | cons y last =>
            cases head
            exact ⟨last, rfl⟩
        -- A zero byte is the character zero.
        rcases Utf8.decodeFrom_cons more with
          ⟨e, _, others, front, rfl, -⟩ | ⟨_, _, _, _, _, front, -⟩
        · cases front
          exact visible _ rfl rfl
        · cases front
      · rw [← (List.cons.inj same).1] at placed
        unfold Utf8.refuse at placed
        split at placed <;> cases placed

/-! ## Detection -/

/-- A text without a mark is detected to be in the encoding that it is written in. -/
theorem detect_text {charset : Charset} {position : Nat} {bytes : List UInt8} {l : List Point}
    (read : charset.decode position bytes = .ok l) (starts : Starts l) :
    detect bytes = (charset, 0) := by
  cases charset with
  | utf8 =>
    obtain ⟨b, rest, low, high, rfl, visible⟩ := utf8_start read starts
    exact detect_utf8 low (by omega) visible
  | utf16 bigEndian =>
    obtain ⟨b, rest, low, high, rfl, pair⟩ := utf16_start read starts
    have known := nonzero_byte low
    cases bigEndian with
    | true =>
      rcases pair with rfl | ⟨x, y, more, rfl, -⟩
      · refine (detect_zero fun zero => absurd zero known).trans ?_
        simp [unmarked]
      · refine (detect_zero fun zero => absurd zero known).trans ?_
        simp [unmarked, known]
    | false =>
      refine (detect_low low (by omega)).trans ?_
      rcases pair with rfl | ⟨x, y, more, rfl, visible⟩
      · simp [unmarked, known]
      · simp [unmarked, known, visible]
  | utf32 bigEndian =>
    obtain ⟨b, rest, low, high, rfl⟩ := utf32_start read starts
    have known := nonzero_byte low
    cases bigEndian with
    | true => exact detect_zero fun _ => rfl
    | false =>
      refine (detect_low low (by omega)).trans ?_
      simp [unmarked, known]

/-- With its mark or without it, a text is detected to be in the encoding that it is written in. -/
theorem detect_led {charset : Charset} {position : Nat} {front bytes : List UInt8} {l : List Point}
    (leads : charset.Leads front) (read : charset.decode position bytes = .ok l)
    (starts : Starts l) : detect (front ++ bytes) = (charset, front.length) := by
  rcases leads with rfl | rfl
  · exact detect_text read starts
  · refine detect_marked ?_
    rintro rfl ⟨rest, rfl⟩
    obtain ⟨b, behind, low, -, same, -⟩ := utf16_start read starts
    exact nonzero_byte low (List.cons.inj same).1.symm

/-! ## Documents -/

theorem units_position {bigEndian : Bool} {position : Nat} (other : Nat) {bytes : List UInt8}
    {found : List Nat} (h : units bigEndian position bytes = .ok found) :
    units bigEndian other bytes = .ok found := by
  induction found generalizing position other bytes with
  | nil =>
    rw [units_nil h]
    rfl
  | cons unit others ih =>
    obtain ⟨a, b, rest, rfl, rfl, more⟩ := units_cons h
    unfold units
    rw [ih (other + 2) more]
    rfl

theorem points_position {bigEndian : Bool} {position : Nat} (other : Nat) {bytes : List UInt8}
    {found : List Nat} (h : points bigEndian position bytes = .ok found) :
    points bigEndian other bytes = .ok found := by
  induction found generalizing position other bytes with
  | nil =>
    rw [points_nil h]
    rfl
  | cons point others ih =>
    obtain ⟨a, b, c, d, rest, rfl, rfl, small, more⟩ := points_cons h
    unfold points
    dsimp only
    rw [if_neg small, ih (other + 4) more]
    rfl

/-- Where bytes stand does not matter to what they are read as. -/
theorem decode_position {charset : Charset} {position : Nat} (other : Nat) {bytes : List UInt8}
    {l : List Point} (h : charset.decode position bytes = .ok l) :
    charset.decode other bytes = .ok l := by
  cases charset with
  | utf8 =>
    unfold decode at h ⊢
    dsimp only at h ⊢
    cases found : Utf8.pass bytes with
    | error e =>
      rw [found] at h
      cases h
    | ok text =>
      rw [found] at h
      exact h
  | utf16 bigEndian =>
    unfold decode at h ⊢
    dsimp only at h ⊢
    cases found : units bigEndian position bytes with
    | error e =>
      rw [found] at h
      cases h
    | ok all =>
      rw [found] at h
      rw [units_position other found]
      exact h
  | utf32 bigEndian =>
    unfold decode at h ⊢
    dsimp only at h ⊢
    cases found : points bigEndian position bytes with
    | error e =>
      rw [found] at h
      cases h
    | ok all =>
      rw [found] at h
      rw [points_position other found]
      exact h

/-- Bytes are read as a text in some encoding, behind a byte order mark or none. -/
theorem decodeDocument_split {bytes : List UInt8} {l : List Point}
    (h : decodeDocument bytes = .ok l) :
    ∃ (charset : Charset) (front rest : List UInt8), charset.Leads front ∧
      bytes = front ++ rest ∧ charset.decode 0 rest = .ok l := by
  obtain ⟨front, leads, whole⟩ := detect_leads bytes
  unfold decodeDocument at h
  exact ⟨(detect bytes).1, front, _, leads, whole, decode_position 0 h⟩

/-- A text that starts as documents do is read in every encoding, with and without the mark. -/
theorem decodeDocument_text {charset : Charset} {position : Nat} {front bytes : List UInt8}
    {l : List Point} (leads : charset.Leads front) (read : charset.decode position bytes = .ok l)
    (starts : Starts l) : decodeDocument (front ++ bytes) = .ok l := by
  unfold decodeDocument
  rw [detect_led leads read starts]
  dsimp only
  rw [List.drop_left]
  exact decode_position _ read

end Charset

end Text

end LakeAdmin
