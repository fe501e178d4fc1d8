import LakeAdmin.Json.Reader
import LakeAdmin.Text.Blank

/-!
How JSON texts start. Behind blanks of ASCII there is a character that a value can start with, so
a text of blanks alone is no document, whatever blanks they are. The first character of a
document is one of ASCII, and the character behind it is not zero.
-/

namespace LakeAdmin.Json.Reader

open Text

def starters : List Char :=
  ['[', '{', '"', '-', '0', '1', '2', '3', '4', '5', '6', '7', '8', '9', 'n', 't', 'f', 'N', 'I']

theorem starter_visible {c : Char} (h : c ∈ starters) :
    isBlank c = false ∧ 0 < c.toNat ∧ c.toNat < 0x80 := by
  have visible : starters.all fun c => !isBlank c ∧ 0 < c.toNat ∧ c.toNat < 0x80 := by decide
  simpa using List.all_eq_true.mp visible c h

theorem digit_listed {c : Char} (h : c.isDigit = true) :
    c ∈ ['0', '1', '2', '3', '4', '5', '6', '7', '8', '9'] := by
  have all : ∀ k : Fin 10,
      Nat.digitChar k ∈ ['0', '1', '2', '3', '4', '5', '6', '7', '8', '9'] := by decide
  obtain ⟨k, rfl⟩ := digit_char h
  exact all k

theorem digit_starter {c : Char} (h : c.isDigit = true) : c ∈ starters :=
  (by decide : ['0', '1', '2', '3', '4', '5', '6', '7', '8', '9'] ⊆ starters) (digit_listed h)

/-- The first characters of the words are starters, and no word has only one. -/
theorem word_starter {word : String} {value : Document} {c : Char} {rest : List Char}
    (known : (word, value) ∈ words) (front : word.toList.isPrefixOf (c :: rest) = true) :
    c ∈ starters ∧ rest ≠ [] := by
  have spelled : ∃ d e more, word.toList = d :: e :: more ∧ d ∈ starters := by
    simp only [words, List.mem_cons, Prod.mk.injEq, List.not_mem_nil, or_false] at known
    rcases known with ⟨rfl, -⟩ | ⟨rfl, -⟩ | ⟨rfl, -⟩ | ⟨rfl, -⟩ | ⟨rfl, -⟩ | ⟨rfl, -⟩ <;>
      exact ⟨_, _, _, rfl, by decide⟩
  obtain ⟨d, e, more, letters, starts⟩ := spelled
  rw [letters, List.isPrefixOf_iff_prefix] at front
  obtain ⟨behind, whole⟩ := front
  obtain ⟨rfl, rfl⟩ := List.cons.inj whole
  exact ⟨starts, List.cons_ne_nil _ _⟩

/-- A number starts with a digit or a minus sign. -/
theorem number_starter {c : Char} {rest : List Char} {read : Except Nat Document × Nat}
    (h : number? (c :: rest) = some read) : c ∈ starters := by
  by_cases minus : c = '-'
  · rw [minus]
    decide
  · by_cases digit : c.isDigit = true
    · exact digit_starter digit
    · exfalso
      have zero : c ≠ '0' := by
        rintro rfl
        exact digit rfl
      unfold number? at h
      simp [minus, digit, zero] at h

/-- Where there is a token, its first character stands in front. -/
theorem token_cons {p : Point} {rest : List Point} {c : Char} {more : List Char}
    (h : token (p :: rest) = c :: more) : p = .char c ∧ token rest = more := by
  cases p with
  | char d =>
    unfold token at h
    split at h
    · obtain ⟨rfl, same⟩ := List.cons.inj h
      exact ⟨rfl, same⟩
    · cases h
  | lone offset => cases h

theorem scalar_starter {position : Nat} {p : Point} {rest : List Point} {read : Document × Nat}
    (h : scalar position (p :: rest) = .ok read) : ∃ c ∈ starters, p = .char c := by
  unfold scalar at h
  split at h
  · rename_i behind same
    cases same
    exact ⟨'"', by decide, rfl⟩
  · dsimp only at h
    cases front : token (p :: rest) with
    | nil =>
      rw [front] at h
      cases h
    | cons c more =>
      rw [front] at h
      refine ⟨c, ?_, (token_cons front).1⟩
      split at h
      · rename_i word value found
        have front := List.find?_some found
        exact (word_starter (List.mem_of_find?_eq_some found) front).1
      · split at h
        · rename_i found
          exact number_starter found
        · cases h
        · cases h

theorem startValue_starter {levels : Nat} {stack : List Frame} {position : Nat} {p : Point}
    {rest : List Point} {next : State × Nat}
    (h : startValue levels stack position p rest = .ok next) : ∃ c ∈ starters, p = .char c := by
  unfold startValue at h
  split at h
  · rename_i bracket
    exact ⟨'[', by decide, bracket⟩
  · split at h
    · rename_i brace
      exact ⟨'{', by decide, brace⟩
    · cases read : scalar position (p :: rest) with
      | error e =>
        rw [read] at h
        cases h
      | ok found => exact scalar_starter read

/-- Where a value is expected there are spaces, or it starts. -/
theorem run_value {levels : Nat} {stack : List Frame} {position : Nat} {l : List Point}
    {value : Document} (h : run levels ⟨.value, stack⟩ position 0 l = .ok value) :
    ∃ c rest, l = c :: rest ∧
      ((isSpace c = true ∧ run levels ⟨.value, stack⟩ (position + 1) 0 rest = .ok value) ∨
        ∃ next skip, startValue levels stack position c rest = .ok (next, skip) ∧
          run levels next (position + 1) skip rest = .ok value) := by
  cases l with
  | nil => cases h
  | cons c rest =>
    refine ⟨c, rest, rfl, ?_⟩
    unfold run step at h
    by_cases space : isSpace c = true
    · rw [if_pos space] at h
      exact .inl ⟨space, h⟩
    · rw [if_neg space] at h
      dsimp only at h
      cases start : startValue levels stack position c rest with
      | error e =>
        rw [start] at h
        cases h
      | ok found =>
        rw [start] at h
        exact .inr ⟨_, _, rfl, h⟩

theorem space_ascii {p : Point} (h : isSpace p = true) :
    ∃ c : Char, p = .char c ∧ 0 < c.toNat ∧ c.toNat < 0x80 := by
  unfold isSpace at h
  simp only [Bool.or_eq_true, beq_iff_eq] at h
  rcases h with ((rfl | rfl) | rfl) | rfl <;> exact ⟨_, rfl, by decide, by decide⟩

/-- A document starts with a character of ASCII. -/
theorem run_head {levels : Nat} {stack : List Frame} {position : Nat} {l : List Point}
    {value : Document} (h : run levels ⟨.value, stack⟩ position 0 l = .ok value) :
    ∃ c rest, l = .char c :: rest ∧ 0 < c.toNat ∧ c.toNat < 0x80 := by
  obtain ⟨p, rest, rfl, ⟨space, -⟩ | ⟨next, skip, start, -⟩⟩ := run_value h
  · obtain ⟨c, rfl, ascii⟩ := space_ascii space
    exact ⟨c, rest, rfl, ascii⟩
  · obtain ⟨c, starter, rfl⟩ := startValue_starter start
    exact ⟨c, rest, rfl, (starter_visible starter).2⟩

/-- Blanks alone are no document. -/
theorem run_blank {levels : Nat} {stack : List Frame} {position : Nat} {l : List Char}
    (blank : ∀ c ∈ l, isBlank c = true) (value : Document) :
    run levels ⟨.value, stack⟩ position 0 (l.map .char) ≠ .ok value := by
  induction l generalizing position with
  | nil => rintro ⟨⟩
  | cons c rest ih =>
    intro h
    obtain ⟨_, _, ⟨rfl, rfl⟩, ⟨-, more⟩ | ⟨next, skip, start, -⟩⟩ := run_value h
    · exact ih (fun d member => blank d (List.mem_cons_of_mem _ member)) more
    · obtain ⟨d, starter, same⟩ := startValue_starter start
      cases same
      have visible := (starter_visible starter).1
      rw [blank _ List.mem_cons_self] at visible
      cases visible

/-! ## Zero -/

def zero : Point := .char '\x00'

theorem zero_starter {c : Char} (h : c ∈ starters) : zero ≠ .char c := by
  rintro ⟨⟩
  exact absurd h (by decide)

/-- No part of a document starts with a zero. -/
theorem step_zero (levels : Nat) (s : State) (position : Nat) (rest : List Point)
    (next : State × Nat) : step levels s position zero rest ≠ .ok next := by
  have value (stack : List Frame) : startValue levels stack position zero rest ≠ .ok next := by
    intro start
    obtain ⟨c, starter, same⟩ := startValue_starter start
    exact zero_starter starter same
  have name (members : Members Wide) (stack : List Frame) :
      startName members stack position zero rest ≠ .ok next := by
    rintro ⟨⟩
  obtain ⟨expected, stack⟩ := s
  intro h
  cases expected with
  | value => exact value _ h
  | firstName => exact name [] stack h
  | name members => exact name members stack h
  | colon members text => cases h
  | firstItem =>
    cases stack with
    | nil => cases h
    | cons frame outer =>
      cases frame with
      | array items => exact value _ h
      | object members text => cases h
  | rest value =>
    cases stack with
    | nil => cases h
    | cons frame outer => cases frame <;> cases h

theorem run_zero (levels : Nat) (s : State) (position : Nat) (rest : List Point)
    (value : Document) : run levels s position 0 (zero :: rest) ≠ .ok value := by
  intro h
  unfold run at h
  cases stepped : step levels s position zero rest with
  | error e =>
    rw [stepped] at h
    cases h
  | ok next => exact step_zero levels s position rest next stepped

/-- A number of one character is one digit. -/
theorem number_single {c : Char} {read : Except Nat Document} {size : Nat}
    (h : number? [c] = some (read, size)) : size = 1 := by
  by_cases minus : c = '-'
  · rw [minus] at h
    cases h
  · by_cases digit : c.isDigit = true
    · have listed := digit_listed digit
      simp only [List.mem_cons, List.not_mem_nil, or_false] at listed
      rcases listed with rfl | rfl | rfl | rfl | rfl | rfl | rfl | rfl | rfl | rfl <;>
        (cases h; rfl)
    · have other : c ≠ '0' := by
        rintro rfl
        exact digit rfl
      unfold number? at h
      simp [minus, digit, other] at h

theorem scalar_zero {position : Nat} {p : Point} {rest : List Point} {value : Document}
    {size : Nat} (h : scalar position (p :: zero :: rest) = .ok (value, size)) : size = 1 := by
  unfold scalar at h
  split at h
  · rename_i behind same
    cases same
    cases h
  · dsimp only at h
    cases front : token (p :: zero :: rest) with
    | nil =>
      rw [front] at h
      cases h
    | cons c more =>
      -- A zero is part of no token.
      have alone : more = [] := (token_cons front).2.symm
      rw [front, alone] at h
      split at h
      · rename_i word value found
        have front := List.find?_some found
        exact absurd rfl (word_starter (List.mem_of_find?_eq_some found) front).2
      · split at h
        · rename_i found
          cases h
          exact number_single found
        · cases h
        · cases h

/-- The second code point of a document is not zero. -/
theorem run_second {levels : Nat} {stack : List Frame} {position : Nat} {c d : Point}
    {rest : List Point} {value : Document}
    (h : run levels ⟨.value, stack⟩ position 0 (c :: d :: rest) = .ok value) : d ≠ zero := by
  rintro rfl
  obtain ⟨_, _, ⟨rfl, rfl⟩, ⟨-, more⟩ | ⟨next, skip, start, more⟩⟩ := run_value h
  · exact run_zero _ _ _ _ _ more
  · have alone : skip = 0 := by
      have bracket {array : Bool} (h : opened levels array stack = .ok (next, skip)) :
          skip = 0 := by
        unfold opened at h
        split at h
        · cases h
        · split at h <;> (cases h; rfl)
      unfold startValue at start
      split at start
      · exact bracket start
      · split at start
        · exact bracket start
        · cases read : scalar position (c :: zero :: rest) with
          | error e =>
            rw [read] at start
            cases start
          | ok found =>
            have size := scalar_zero read
            rw [read] at start
            cases start
            omega
    rw [alone] at more
    exact run_zero _ _ _ _ _ more

end LakeAdmin.Json.Reader
