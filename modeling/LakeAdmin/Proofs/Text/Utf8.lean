import LakeAdmin.Proofs.Text.Percent

/-!
A sequence of UTF-8 that is read as a character is the one that the character is written in, so
where the lenient reader has nothing to replace, what it reads is written in the same bytes again.
The strict reader then reads the same.
-/

namespace LakeAdmin.Text.Utf8

/-! ## Characters -/

theorem uint8_eq {b : UInt8} {n : Nat} (h : b.toNat = n) : b = UInt8.ofNat n := by
  rw [← h, UInt8.ofNat_toNat]

theorem toNat_char {v : Nat} (h : v < 0xD800 ∨ (0xDFFF < v ∧ v < 0x110000)) :
    (Char.ofNat v).val.toNat = v := by
  unfold Char.ofNat
  rw [dif_pos h]
  rfl

/-- A byte with a payload is a continuation byte. -/
theorem payload_some {low high bits : Nat} {b : UInt8} (from_low : 0x80 ≤ low)
    (to_high : high ≤ 0xBF) (h : payload? low high b = some bits) :
    b = UInt8.ofNat (bits + 0x80) ∧ bits < 64 ∧ low ≤ bits + 0x80 ∧ bits + 0x80 ≤ high := by
  unfold payload? at h
  split at h
  · rename_i range
    cases h
    exact ⟨uint8_eq (by omega), by omega, by omega, by omega⟩
  · cases h

theorem continue_char_cons {value seen low high size : Nat} {ranges : List (Nat × Nat)}
    {rest : List UInt8} {c : Char} (from_low : 0x80 ≤ low) (to_high : high ≤ 0xBF)
    (h : continue' value seen ((low, high) :: ranges) rest = .char c size) :
    ∃ bits behind, rest = UInt8.ofNat (bits + 0x80) :: behind ∧ bits < 64 ∧
      low ≤ bits + 0x80 ∧ bits + 0x80 ≤ high ∧
      continue' (value * 64 + bits) (seen + 1) ranges behind = .char c size := by
  cases rest with
  | nil => cases h
  | cons b behind =>
    unfold continue' at h
    split at h
    · rename_i bits read
      obtain ⟨rfl, small, lower, upper⟩ := payload_some from_low to_high read
      exact ⟨bits, behind, rfl, small, lower, upper, h⟩
    · cases h

theorem encode_one {v : Nat} (h : v < 0x80) :
    String.utf8EncodeChar (Char.ofNat v) = [UInt8.ofNat v] := by
  unfold String.utf8EncodeChar
  dsimp only
  rw [toNat_char (by omega), if_pos (by omega)]

theorem encode_two {v : Nat} (low : 0x80 ≤ v) (high : v < 0x800) :
    String.utf8EncodeChar (Char.ofNat v) =
      [UInt8.ofNat (v / 64 % 32 + 0xc0), UInt8.ofNat (v % 64 + 0x80)] := by
  unfold String.utf8EncodeChar
  dsimp only
  rw [toNat_char (by omega), if_neg (by omega), if_pos (by omega)]

theorem encode_three {v : Nat} (low : 0x800 ≤ v) (high : v < 0x10000)
    (scalar : v < 0xD800 ∨ 0xDFFF < v) :
    String.utf8EncodeChar (Char.ofNat v) =
      [UInt8.ofNat (v / 4096 % 16 + 0xe0), UInt8.ofNat (v / 64 % 64 + 0x80),
        UInt8.ofNat (v % 64 + 0x80)] := by
  unfold String.utf8EncodeChar
  dsimp only
  rw [toNat_char (by omega), if_neg (by omega), if_neg (by omega), if_pos (by omega)]

theorem encode_four {v : Nat} (low : 0x10000 ≤ v) (high : v < 0x110000) :
    String.utf8EncodeChar (Char.ofNat v) =
      [UInt8.ofNat (v / 262144 % 8 + 0xf0), UInt8.ofNat (v / 4096 % 64 + 0x80),
        UInt8.ofNat (v / 64 % 64 + 0x80), UInt8.ofNat (v % 64 + 0x80)] := by
  unfold String.utf8EncodeChar
  dsimp only
  rw [toNat_char (by omega), if_neg (by omega), if_neg (by omega), if_neg (by omega)]

/-- A character that is read from a first byte and what follows it: its bytes are those. -/
def Reads (b : UInt8) (rest : List UInt8) (c : Char) (size : Nat) : Prop :=
  ∃ tail behind, rest = tail ++ behind ∧ String.utf8EncodeChar c = b :: tail ∧
    size = tail.length + 1

theorem reads_two {b : UInt8} {rest : List UInt8} {c : Char} {size : Nat} (low : 0xC2 ≤ b.toNat)
    (high : b.toNat < 0xE0) (h : continue' (b.toNat % 32) 1 [anyTail] rest = .char c size) :
    Reads b rest c size := by
  obtain ⟨x, behind, rfl, small, -, -, last⟩ := continue_char_cons (by decide) (by decide) h
  cases last
  have value : (b.toNat % 32 * 64 + x) / 64 % 32 + 0xc0 = b.toNat := by omega
  have bits : (b.toNat % 32 * 64 + x) % 64 = x := by omega
  refine ⟨[_], behind, rfl, ?_, rfl⟩
  rw [encode_two (by omega) (by omega), value, bits, UInt8.ofNat_toNat]

theorem reads_three {b : UInt8} {rest : List UInt8} {c : Char} {size lead low high : Nat}
    (front : b.toNat = lead + 0xE0) (small : lead < 16) (from_low : 0x80 ≤ low)
    (to_high : high ≤ 0xBF) (long : lead = 0 → 0xA0 ≤ low) (scalar : lead = 13 → high ≤ 0x9F)
    (h : continue' lead 1 [(low, high), anyTail] rest = .char c size) : Reads b rest c size := by
  obtain ⟨x, behind, rfl, hx, lower, upper, next⟩ := continue_char_cons from_low to_high h
  obtain ⟨y, behind, rfl, hy, -, -, last⟩ := continue_char_cons (by decide) (by decide) next
  cases last
  have first : ((lead * 64 + x) * 64 + y) / 4096 % 16 + 0xe0 = b.toNat := by omega
  have second : ((lead * 64 + x) * 64 + y) / 64 % 64 = x := by omega
  have third : ((lead * 64 + x) * 64 + y) % 64 = y := by omega
  refine ⟨[_, _], behind, rfl, ?_, rfl⟩
  rw [encode_three (by omega) (by omega) (by omega), first, second, third, UInt8.ofNat_toNat]

theorem reads_four {b : UInt8} {rest : List UInt8} {c : Char} {size lead low high : Nat}
    (front : b.toNat = lead + 0xF0) (small : lead < 5) (from_low : 0x80 ≤ low)
    (to_high : high ≤ 0xBF) (long : lead = 0 → 0x90 ≤ low) (scalar : lead = 4 → high ≤ 0x8F)
    (h : continue' lead 1 [(low, high), anyTail, anyTail] rest = .char c size) :
    Reads b rest c size := by
  obtain ⟨x, behind, rfl, hx, lower, upper, next⟩ := continue_char_cons from_low to_high h
  obtain ⟨y, behind, rfl, hy, -, -, next⟩ := continue_char_cons (by decide) (by decide) next
  obtain ⟨z, behind, rfl, hz, -, -, last⟩ := continue_char_cons (by decide) (by decide) next
  cases last
  have first : (((lead * 64 + x) * 64 + y) * 64 + z) / 262144 % 8 + 0xf0 = b.toNat := by omega
  have second : (((lead * 64 + x) * 64 + y) * 64 + z) / 4096 % 64 = x := by omega
  have third : (((lead * 64 + x) * 64 + y) * 64 + z) / 64 % 64 = y := by omega
  have fourth : (((lead * 64 + x) * 64 + y) * 64 + z) % 64 = z := by omega
  refine ⟨[_, _, _], behind, rfl, ?_, rfl⟩
  rw [encode_four (by omega) (by omega), first, second, third, fourth, UInt8.ofNat_toNat]

/-- What is read as a character is the sequence it is written in. -/
theorem step_reads {b : UInt8} {rest : List UInt8} {c : Char} {size : Nat}
    (h : step b rest = .char c size) : Reads b rest c size := by
  unfold step at h
  dsimp only at h
  split at h
  · rename_i small
    cases h
    exact ⟨[], rest, rfl, by rw [encode_one small, UInt8.ofNat_toNat], rfl⟩
  · split at h
    · cases h
    · split at h
      · exact reads_two (by omega) (by omega) h
      · split at h
        · exact reads_three (by omega) (by omega) (by omega) (by omega) (by omega) (by omega) h
        · split at h
          · exact reads_three (by omega) (by omega) (by omega) (by omega) (by omega) (by omega) h
          · split at h
            · exact reads_three (by omega) (by omega) (by decide) (by decide) (by omega)
                (by omega) h
            · split at h
              · exact reads_four (by omega) (by omega) (by omega) (by omega) (by omega) (by omega) h
              · split at h
                · exact reads_four (by omega) (by omega) (by decide) (by decide) (by omega)
                    (by omega) h
                · split at h
                  · exact reads_four (by omega) (by omega) (by omega) (by omega) (by omega)
                      (by omega) h
                  · cases h

/-! ## Texts -/

/-- What the reading of a sequence and of what follows it comes to. -/
theorem decodeFrom_cons {α : Type} {char : Char → α} {put : Handler α} {position : Nat}
    {b : UInt8} {rest : List UInt8} {l : List α}
    (h : decodeFrom char put position 0 (b :: rest) = .ok l) :
    (∃ c size others, step b rest = .char c size ∧ l = char c :: others ∧
      decodeFrom char put (position + 1) (size - 1) rest = .ok others) ∨
    ∃ fault size instead taken others, step b rest = .bad fault size ∧
      put position b rest fault size = .ok (instead, taken) ∧ l = instead :: others ∧
      decodeFrom char put (position + 1) (taken - 1) rest = .ok others := by
  unfold decodeFrom at h
  cases front : step b rest with
  | char c size =>
    rw [front] at h
    dsimp only at h
    cases read : decodeFrom char put (position + 1) (size - 1) rest with
    | error e =>
      rw [read] at h
      cases h
    | ok others =>
      rw [read] at h
      cases h
      exact .inl ⟨c, size, others, rfl, rfl, read⟩
  | bad fault size =>
    rw [front] at h
    dsimp only at h
    cases placed : put position b rest fault size with
    | error e =>
      rw [placed] at h
      cases h
    | ok answer =>
      obtain ⟨instead, taken⟩ := answer
      rw [placed] at h
      dsimp only [bind, Except.bind] at h
      cases read : decodeFrom char put (position + 1) (taken - 1) rest with
      | error e =>
        rw [read] at h
        cases h
      | ok others =>
        rw [read] at h
        cases h
        exact .inr ⟨fault, size, instead, taken, others, rfl, placed, rfl, read⟩

/-- Where nothing was replaced, the characters that are read are written in the bytes that were
not read before. -/
theorem decodeFrom_sound {position skip : Nat} {bytes : List UInt8} {l : List Char}
    (h : decodeFrom id mark position skip bytes = .ok l) (unmarked : Char.ofNat 0xFFFD ∉ l) :
    bytes.drop skip = l.flatMap String.utf8EncodeChar := by
  induction bytes generalizing position skip l with
  | nil =>
    cases skip <;> cases h <;> rfl
  | cons b rest ih =>
    cases skip with
    | succ skip => exact ih h unmarked
    | zero =>
      rcases decodeFrom_cons h with
        ⟨c, size, others, front, rfl, more⟩ | ⟨_, _, instead, _, others, _, placed, rfl, -⟩
      · obtain ⟨tail, behind, rfl, bytes, rfl⟩ := step_reads front
        have rest := ih more fun member => unmarked (List.mem_cons_of_mem _ member)
        rw [Nat.add_sub_cancel, List.drop_left] at rest
        rw [List.drop_zero, List.flatMap_cons, id, bytes, ← rest, List.cons_append]
      · cases placed
        exact absurd List.mem_cons_self unmarked

/-- Every text is written in one way, and is read by both readers. -/
theorem pass_encode (l : List Char) :
    pass (l.flatMap String.utf8EncodeChar) = .ok (l.map .char) := decodeFrom_encode _ _ l 0

/-- The lenient reader reads everything. -/
theorem decodeFrom_mark (position skip : Nat) (bytes : List UInt8) :
    ∃ l, decodeFrom id mark position skip bytes = .ok l := by
  induction bytes generalizing position skip with
  | nil => exact ⟨[], by cases skip <;> rfl⟩
  | cons b rest ih =>
    cases skip with
    | succ skip => exact ih (position + 1) skip
    | zero =>
      unfold decodeFrom
      cases step b rest with
      | char c size =>
        obtain ⟨others, read⟩ := ih (position + 1) (size - 1)
        dsimp only
        rw [read]
        exact ⟨_, rfl⟩
      | bad fault size =>
        obtain ⟨others, read⟩ := ih (position + 1) (size - 1)
        dsimp only [mark, bind, Except.bind]
        rw [read]
        exact ⟨_, rfl⟩

/-- Where nothing was replaced, the bytes are those of the text. -/
theorem replace_sound {bytes : List UInt8} (unmarked : Char.ofNat 0xFFFD ∉ replace bytes) :
    bytes = (replace bytes).flatMap String.utf8EncodeChar := by
  obtain ⟨l, read⟩ := decodeFrom_mark 0 0 bytes
  have same : replace bytes = l := by
    unfold replace
    rw [read]
  rw [same] at unmarked ⊢
  exact decodeFrom_sound read unmarked

end LakeAdmin.Text.Utf8
