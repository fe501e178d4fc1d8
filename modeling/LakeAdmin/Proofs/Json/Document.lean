import LakeAdmin.Json.Document
import LakeAdmin.Proofs.Json.Start
import LakeAdmin.Proofs.Text.Charset

/-!
Which bytes hold a document. They hold one if and only if they are a text of JSON in UTF-8, in
UTF-16 or in UTF-32, in either order of bytes, with or without a byte order mark; what is
detected is always right. Bytes that are blank as text hold no document in any encoding.
-/

namespace LakeAdmin.Json

open Text Charset

variable {levels : Nat}

/-- Bytes hold a document in an encoding: a text that it can be read from with room for so many
levels, behind the byte order mark or nothing. -/
def HeldIn (levels : Nat) (charset : Charset) (bytes : List UInt8) (value : Document) : Prop :=
  ∃ front rest l, charset.Leads front ∧ bytes = front ++ rest ∧ charset.decode 0 rest = .ok l ∧
    read levels l = .ok value

theorem read_starts {l : List Point} {value : Document} (h : read levels l = .ok value) :
    Starts l := by
  obtain ⟨c, rest, rfl, low, high⟩ := Reader.run_head h
  refine ⟨c, rest, rfl, low, high, ?_⟩
  cases rest with
  | nil => rintro _ ⟨⟩
  | cons d others =>
    rintro _ ⟨⟩
    exact Reader.run_second h

/-- What is read is what the bytes hold, in whatever encoding. -/
theorem ofBytes_iff {bytes : List UInt8} {value : Document} :
    ofBytes levels bytes = .ok value ↔ ∃ charset, HeldIn levels charset bytes value := by
  constructor
  · intro h
    unfold ofBytes at h
    cases text : decodeDocument bytes with
    | error e =>
      rw [text] at h
      cases h
    | ok l =>
      obtain ⟨charset, front, rest, leads, whole, decoded⟩ := decodeDocument_split text
      rw [text] at h
      dsimp only at h
      cases found : read levels l with
      | error stop =>
        rw [found] at h
        cases stop <;> cases h
      | ok other =>
        rw [found] at h
        cases h
        exact ⟨charset, front, rest, l, leads, whole, decoded, found⟩
  · rintro ⟨charset, front, rest, l, leads, rfl, decoded, found⟩
    unfold ofBytes
    rw [decodeDocument_text leads decoded (read_starts found)]
    dsimp only
    rw [found]

/-! ## Blanks -/

theorem blank_small {c : Char} (h : isBlank c = true) : 0 < c.toNat ∧ c.toNat ≤ 0x3000 := by
  simp [isBlank, isWhite, inRanges] at h
  omega

/-- The bytes of blanks are those of no zero, no byte order mark and no surrogate. -/
theorem blank_bytes {c : Char} (h : isBlank c = true) :
    ∀ b ∈ String.utf8EncodeChar c, 0 < b.toNat ∧ b.toNat < 0xED := by
  obtain ⟨low, high⟩ := blank_small h
  have back := Char.ofNat_toNat c
  generalize c.toNat = v at low high back
  subst back
  intro b member
  by_cases one : v < 0x80
  · rw [Utf8.encode_one one, List.mem_singleton] at member
    rw [member, Utf8.toNat_ofNat (by omega)]
    omega
  · by_cases two : v < 0x800
    · rw [Utf8.encode_two (by omega) two] at member
      simp only [List.mem_cons, List.not_mem_nil, or_false] at member
      rcases member with rfl | rfl <;> rw [Utf8.toNat_ofNat (by omega)] <;> omega
    · rw [Utf8.encode_three (by omega) (by omega) (by omega)] at member
      simp only [List.mem_cons, List.not_mem_nil, or_false] at member
      rcases member with rfl | rfl | rfl <;> rw [Utf8.toNat_ofNat (by omega)] <;> omega

/-- Bytes that are blank as a text are read as this text, and hold no document. -/
theorem blank_unread {bytes : List UInt8} (blank : ∀ c ∈ Utf8.replace bytes, isBlank c = true)
    (value : Document) : ofBytes levels bytes ≠ .ok value := by
  have unmarked : Char.ofNat 0xFFFD ∉ Utf8.replace bytes := by
    intro member
    exact absurd (blank _ member) (by decide)
  have written := Utf8.replace_sound unmarked
  have plain : ∀ b ∈ bytes, 0 < b.toNat ∧ b.toNat < 0xED := by
    intro b member
    rw [written] at member
    obtain ⟨c, held, part⟩ := List.mem_flatMap.mp member
    exact blank_bytes (blank c held) b part
  have detected : detect bytes = (utf8, 0) := by
    cases bytes with
    | nil => rfl
    | cons b rest =>
      obtain ⟨low, high⟩ := plain b List.mem_cons_self
      refine detect_utf8 low (by omega) fun x head => ?_
      exact nonzero_byte (plain x (List.mem_cons_of_mem b (List.mem_of_mem_head? head))).1
  have passed : Utf8.pass bytes = .ok ((Utf8.replace bytes).map .char) := by
    rw [written, Utf8.pass_encode, ← written]
  have decoded : decodeDocument bytes = .ok ((Utf8.replace bytes).map .char) := by
    unfold decodeDocument
    rw [detected]
    dsimp only
    rw [List.drop_zero, decode, passed]
  intro h
  unfold ofBytes at h
  rw [decoded] at h
  dsimp only at h
  cases found : read levels ((Utf8.replace bytes).map .char) with
  | error stop =>
    rw [found] at h
    cases stop <;> cases h
  | ok other => exact Reader.run_blank blank other found

end LakeAdmin.Json
