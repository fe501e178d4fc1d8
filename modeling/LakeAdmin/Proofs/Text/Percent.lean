import LakeAdmin.Proofs.Text.Split
import LakeAdmin.Text.Percent

/-!
Percent encoding is undone by reading it back. The bytes of a character come back from
their triples, and the character from its bytes; so a text that is encoded whole stands
for itself, whatever characters it holds.
-/

namespace LakeAdmin.Text

/-! ## Characters from their bytes -/

namespace Utf8

theorem toNat_ofNat {n : Nat} (h : n < 256) : (UInt8.ofNat n).toNat = n := by
  simp [Nat.mod_eq_of_lt h]

/-- A continuation byte gives its payload. -/
theorem payload_ofNat {low high bits : Nat} (hb : bits < 64) (hl : low ≤ bits + 0x80)
    (hh : bits + 0x80 ≤ high) :
    payload? low high (UInt8.ofNat (bits + 0x80)) = some bits := by
  unfold payload?
  rw [toNat_ofNat (by omega), if_pos ⟨hl, hh⟩]
  congr 1
  omega

theorem continue_cons {value seen low high bits : Nat} {ranges : List (Nat × Nat)}
    {rest : List UInt8} (hb : bits < 64) (hl : low ≤ bits + 0x80) (hh : bits + 0x80 ≤ high) :
    continue' value seen ((low, high) :: ranges) (UInt8.ofNat (bits + 0x80) :: rest) =
      continue' (value * 64 + bits) (seen + 1) ranges rest := by
  simp only [continue', payload_ofNat hb hl hh]

theorem step_two {v : Nat} (rest : List UInt8) (low : 0x80 ≤ v) (high : v < 0x800) :
    step (UInt8.ofNat (v / 64 % 32 + 0xc0)) (UInt8.ofNat (v % 64 + 0x80) :: rest) =
      .char (Char.ofNat v) 2 := by
  have value : (v / 64 % 32 + 0xc0) % 32 * 64 + v % 64 = v := by omega
  unfold step anyTail
  rw [toNat_ofNat (by omega)]
  dsimp only
  rw [if_neg (by omega), if_neg (by omega), if_pos (by omega),
    continue_cons (by omega) (by omega) (by omega), continue', value]

theorem step_three {v : Nat} (rest : List UInt8) (low : 0x800 ≤ v) (high : v < 0x10000)
    (scalar : v < 0xD800 ∨ 0xDFFF < v) :
    step (UInt8.ofNat (v / 4096 % 16 + 0xe0))
        (UInt8.ofNat (v / 64 % 64 + 0x80) :: UInt8.ofNat (v % 64 + 0x80) :: rest) =
      .char (Char.ofNat v) 3 := by
  unfold step anyTail
  rw [toNat_ofNat (by omega)]
  dsimp only
  rw [if_neg (by omega), if_neg (by omega), if_neg (by omega)]
  by_cases first : v / 4096 % 16 + 0xe0 = 0xe0
  · have value : (0 * 64 + v / 64 % 64) * 64 + v % 64 = v := by omega
    rw [if_pos first, continue_cons (by omega) (by omega) (by omega),
      continue_cons (by omega) (by omega) (by omega), continue', value]
  · rw [if_neg first]
    by_cases surrogate : v / 4096 % 16 + 0xe0 = 0xed
    · have value : (0xD * 64 + v / 64 % 64) * 64 + v % 64 = v := by omega
      rw [if_pos surrogate, continue_cons (by omega) (by omega) (by omega),
        continue_cons (by omega) (by omega) (by omega), continue', value]
    · have value : ((v / 4096 % 16 + 0xe0) % 16 * 64 + v / 64 % 64) * 64 + v % 64 = v := by
        omega
      rw [if_neg surrogate, if_pos (by omega), continue_cons (by omega) (by omega) (by omega),
        continue_cons (by omega) (by omega) (by omega), continue', value]

theorem step_four {v : Nat} (rest : List UInt8) (low : 0x10000 ≤ v) (high : v < 0x110000) :
    step (UInt8.ofNat (v / 262144 % 8 + 0xf0))
        (UInt8.ofNat (v / 4096 % 64 + 0x80) :: UInt8.ofNat (v / 64 % 64 + 0x80) ::
          UInt8.ofNat (v % 64 + 0x80) :: rest) =
      .char (Char.ofNat v) 4 := by
  unfold step anyTail
  rw [toNat_ofNat (by omega)]
  dsimp only
  rw [if_neg (by omega), if_neg (by omega), if_neg (by omega), if_neg (by omega),
    if_neg (by omega), if_neg (by omega)]
  by_cases first : v / 262144 % 8 + 0xf0 = 0xf0
  · have value : ((0 * 64 + v / 4096 % 64) * 64 + v / 64 % 64) * 64 + v % 64 = v := by omega
    rw [if_pos first, continue_cons (by omega) (by omega) (by omega),
      continue_cons (by omega) (by omega) (by omega),
      continue_cons (by omega) (by omega) (by omega), continue', value]
  · rw [if_neg first]
    by_cases middle : v / 262144 % 8 + 0xf0 < 0xf4
    · have value : (((v / 262144 % 8 + 0xf0) % 8 * 64 + v / 4096 % 64) * 64 + v / 64 % 64) * 64 +
          v % 64 = v := by omega
      rw [if_pos middle, continue_cons (by omega) (by omega) (by omega),
        continue_cons (by omega) (by omega) (by omega),
        continue_cons (by omega) (by omega) (by omega), continue', value]
    · have value : ((4 * 64 + v / 4096 % 64) * 64 + v / 64 % 64) * 64 + v % 64 = v := by omega
      rw [if_neg middle, if_pos (by omega), continue_cons (by omega) (by omega) (by omega),
        continue_cons (by omega) (by omega) (by omega),
        continue_cons (by omega) (by omega) (by omega), continue', value]

/-- The bytes of a character are read as this character. -/
theorem step_utf8EncodeChar (c : Char) (rest : List UInt8) :
    ∃ b tail, String.utf8EncodeChar c = b :: tail ∧
      step b (tail ++ rest) = .char c (tail.length + 1) := by
  have valid : c.val.toNat < 0xD800 ∨ (0xDFFF < c.val.toNat ∧ c.val.toNat < 0x110000) := c.valid
  have back : Char.ofNat c.val.toNat = c := Char.ofNat_toNat c
  unfold String.utf8EncodeChar
  dsimp only
  generalize c.val.toNat = v at valid back
  subst back
  split
  · refine ⟨_, _, rfl, ?_⟩
    unfold step
    rw [toNat_ofNat (by omega), if_pos (by omega)]
    rfl
  · split
    · exact ⟨_, _, rfl, step_two rest (by omega) (by omega)⟩
    · split
      · exact ⟨_, _, rfl, step_three rest (by omega) (by omega) (by omega)⟩
      · exact ⟨_, _, rfl, step_four rest (by omega) (by omega)⟩

/-- The bytes behind a character that was read are passed over. -/
theorem decodeFrom_skip {α : Type} (char : Char → α) (put : Handler α) (position : Nat)
    (passed rest : List UInt8) :
    decodeFrom char put position passed.length (passed ++ rest) =
      decodeFrom char put (position + passed.length) 0 rest := by
  induction passed generalizing position with
  | nil => rfl
  | cons b passed ih =>
    rw [List.length_cons, List.cons_append, decodeFrom, ih (position + 1)]
    congr 1
    omega

theorem decodeFrom_encode {α : Type} (char : Char → α) (put : Handler α) (l : List Char)
    (position : Nat) :
    decodeFrom char put position 0 (l.flatMap String.utf8EncodeChar) = .ok (l.map char) := by
  induction l generalizing position with
  | nil => rfl
  | cons c rest ih =>
    obtain ⟨b, tail, bytes, read⟩ :=
      step_utf8EncodeChar c (rest.flatMap String.utf8EncodeChar)
    rw [List.flatMap_cons, bytes, List.cons_append, decodeFrom, read]
    dsimp only
    rw [Nat.add_sub_cancel, decodeFrom_skip, ih]
    rfl

/-- The bytes of a text are read as this text. -/
theorem replace_encode (l : List Char) : replace (l.flatMap String.utf8EncodeChar) = l := by
  unfold replace
  rw [decodeFrom_encode, List.map_id]

end Utf8

/-! ## Bytes from their triples -/

namespace Percent

theorem hexDigit_hexUpper {n : Nat} (h : n < 16) : hexDigit? (hexUpper n) = some n := by
  have all : ∀ n : Fin 16, hexDigit? (hexUpper n) = some n.val := by decide
  exact all ⟨n, h⟩

theorem decodeBytes_encodeByte (b : UInt8) (rest : List Char) :
    decodeBytes (encodeByte b ++ rest) = b :: decodeBytes rest := by
  have hb : b.toNat < 256 := b.toNat_lt
  have whole : b.toNat / 16 * 16 + b.toNat % 16 = b.toNat := by omega
  simp only [encodeByte, List.cons_append, List.nil_append, decodeBytes]
  rw [hexDigit_hexUpper (by omega), hexDigit_hexUpper (by omega)]
  dsimp only
  rw [whole, UInt8.ofNat_toNat]

theorem decodeBytes_encodeBytes (bytes : List UInt8) (rest : List Char) :
    decodeBytes (bytes.flatMap encodeByte ++ rest) = bytes ++ decodeBytes rest := by
  induction bytes with
  | nil => rfl
  | cons b bytes ih =>
    rw [List.flatMap_cons, List.append_assoc, decodeBytes_encodeByte, ih]
    rfl

theorem decodeBytes_cons {c : Char} (h : c ≠ '%') (rest : List Char) :
    decodeBytes (c :: rest) = String.utf8EncodeChar c ++ decodeBytes rest := by
  rw [decodeBytes.eq_def (c :: rest)]
  split
  · rename_i he
    cases he
  · rename_i he
    exact absurd (List.cons.inj he).1 h
  · rename_i he
    cases he
    rfl

theorem decodeBytes_encodeChar {keep : Char → Bool} (h : keep '%' = false) (c : Char)
    (rest : List Char) :
    decodeBytes (encodeChar keep c ++ rest) = String.utf8EncodeChar c ++ decodeBytes rest := by
  unfold encodeChar
  split
  · rename_i kept
    have hc : c ≠ '%' := by
      rintro rfl
      exact Bool.false_ne_true (h.symm.trans kept)
    exact decodeBytes_cons hc rest
  · exact decodeBytes_encodeBytes _ _

/-- Reading an encoded text gives the text, unless percent signs are kept as they are. -/
theorem decode_encode {keep : Char → Bool} (h : keep '%' = false) (s : String) :
    decode (encode keep s) = s := by
  have bytes (l : List Char) :
      decodeBytes (l.flatMap (encodeChar keep)) = l.flatMap String.utf8EncodeChar := by
    induction l with
    | nil => rfl
    | cons c rest ih => rw [List.flatMap_cons, decodeBytes_encodeChar h, ih, List.flatMap_cons]
  unfold decode encode
  rw [String.toList_ofList, bytes, Utf8.replace_encode, String.ofList_toList]

/-! ## The characters of an encoded text -/

def isTripleChar (c : Char) : Bool := c == '%' || c.isDigit || ('A' ≤ c && c ≤ 'F')

theorem tripleChar_hexUpper {n : Nat} (h : n < 16) : isTripleChar (hexUpper n) = true := by
  have all : ∀ n : Fin 16, isTripleChar (hexUpper n) = true := by decide
  exact all ⟨n, h⟩

theorem tripleChar_of_mem_encodeByte {b : UInt8} {c : Char} (h : c ∈ encodeByte b) :
    isTripleChar c = true := by
  have hb : b.toNat < 256 := b.toNat_lt
  simp only [encodeByte, List.mem_cons, List.not_mem_nil, or_false] at h
  rcases h with rfl | rfl | rfl
  · rfl
  · exact tripleChar_hexUpper (by omega)
  · exact tripleChar_hexUpper (by omega)

/-- An encoded text holds what is kept, and triples. -/
theorem mem_encode {keep : Char → Bool} {s : String} {c : Char}
    (h : c ∈ (encode keep s).toList) : (keep c = true ∧ c ∈ s.toList) ∨ isTripleChar c = true := by
  unfold encode at h
  rw [String.toList_ofList, List.mem_flatMap] at h
  obtain ⟨d, hd, hc⟩ := h
  unfold encodeChar at hc
  split at hc
  · rename_i kept
    rw [List.mem_singleton] at hc
    subst hc
    exact .inl ⟨kept, hd⟩
  · obtain ⟨b, -, hb⟩ := List.mem_flatMap.mp hc
    exact .inr (tripleChar_of_mem_encodeByte hb)

/-- A text of unreserved characters and of percent signs with two hexadecimal digits each. -/
inductive Escaped : List Char → Prop
  | nil : Escaped []
  | plain {c : Char} {rest : List Char} (unreserved : isUnreserved c = true)
      (behind : Escaped rest) : Escaped (c :: rest)
  | triple {high low : Char} {rest : List Char} (first : high ∈ "0123456789ABCDEF".toList)
      (second : low ∈ "0123456789ABCDEF".toList) (behind : Escaped rest) :
      Escaped ('%' :: high :: low :: rest)

theorem Escaped.append {front rest : List Char} (first : Escaped front) (second : Escaped rest) :
    Escaped (front ++ rest) := by
  induction first with
  | nil => exact second
  | plain unreserved behind ih => exact .plain unreserved ih
  | triple first second behind ih => exact .triple first second ih

theorem escaped_flatMap {α : Type} {f : α → List Char} (each : ∀ a, Escaped (f a)) (l : List α) :
    Escaped (l.flatMap f) := by
  induction l with
  | nil => exact .nil
  | cons a rest ih =>
    rw [List.flatMap_cons]
    exact (each a).append ih

theorem hexUpper_digit {n : Nat} (h : n < 16) : hexUpper n ∈ "0123456789ABCDEF".toList := by
  have all : ∀ n : Fin 16, hexUpper n ∈ "0123456789ABCDEF".toList := by decide
  exact all ⟨n, h⟩

/-- What is not unreserved is written in triples. -/
theorem encode_escaped (s : String) : Escaped (encode isUnreserved s).toList := by
  unfold encode
  rw [String.toList_ofList]
  apply escaped_flatMap
  intro c
  unfold encodeChar
  split
  · exact .plain ‹_› .nil
  · apply escaped_flatMap
    intro b
    have small : b.toNat < 256 := b.toNat_lt
    exact .triple (hexUpper_digit (by omega)) (hexUpper_digit (by omega)) .nil

/-- A text of nothing but kept characters is encoded as it is. -/
theorem encode_eq_self {keep : Char → Bool} {s : String} (h : ∀ c ∈ s.toList, keep c = true) :
    encode keep s = s := by
  have same : s.toList.flatMap (encodeChar keep) = s.toList := by
    generalize s.toList = l at h
    induction l with
    | nil => rfl
    | cons c rest ih =>
      rw [List.flatMap_cons, ih fun d hd => h d (by simp [hd])]
      simp [encodeChar, h c (by simp)]
  unfold encode
  rw [same, String.ofList_toList]

/-- An encoded text without a percent sign is the text itself. -/
theorem encode_unmarked {keep : Char → Bool} {s : String} (h : '%' ∉ (encode keep s).toList) :
    encode keep s = s := by
  refine encode_eq_self fun c hc => Decidable.byContradiction fun other => h ?_
  unfold encode encodeChar
  rw [String.toList_ofList, List.mem_flatMap]
  refine ⟨c, hc, ?_⟩
  rw [if_neg other, List.mem_flatMap]
  cases hb : String.utf8EncodeChar c with
  | nil => exact absurd hb (String.utf8EncodeChar_ne_nil)
  | cons b bytes => exact ⟨b, by simp, by simp [encodeByte]⟩

/-- Segments are encoded one by one. -/
theorem splitAt_encode {keep : Char → Bool} (h : keep '/' = true) (s : String) :
    splitAt '/' (encode keep s).toList =
      (splitAt '/' s.toList).map fun part => (encode keep (String.ofList part)).toList := by
  have joined (parts : List (List Char)) :
      (joinWith '/' parts).flatMap (encodeChar keep) =
        joinWith '/' (parts.map (·.flatMap (encodeChar keep))) := by
    induction parts with
    | nil => rfl
    | cons part rest ih =>
      cases rest with
      | nil => rfl
      | cons next rest =>
        have slash : encodeChar keep '/' = ['/'] := if_pos h
        rw [joinWith, List.flatMap_append, List.flatMap_cons, slash, ih]
        rfl
  have whole : (encode keep s).toList = joinWith '/'
      ((splitAt '/' s.toList).map fun part => (encode keep (String.ofList part)).toList) := by
    unfold encode
    simp only [String.toList_ofList]
    rw [← joined, joinWith_splitAt]
  rw [whole, splitAt_joinWith]
  · simpa using splitAt_ne_nil _ _
  · intro encoded hm
    obtain ⟨part, hp, rfl⟩ := List.mem_map.mp hm
    intro slash
    rcases mem_encode slash with ⟨-, hs⟩ | triple
    · rw [String.toList_ofList] at hs
      exact not_mem_splitAt hp hs
    · revert triple
      decide

end Percent

end LakeAdmin.Text
