import LakeAdmin.Text.Digit

/-!
Decimal forms. A number has one: the digits of which only a lone zero starts with a zero. What is
read from such digits is the number that is written with them.
-/

namespace LakeAdmin.Text

theorem ofDigits_append (base : Nat) (l m : List Nat) :
    ofDigits base (l ++ m) =
      m.foldl (fun value digit => value * base + digit) (ofDigits base l) := by
  simp [ofDigits]

structure IsDecimal (digits : List Nat) : Prop where
  small : ∀ digit ∈ digits, digit < 10
  filled : digits ≠ []
  plain : digits.head? = some 0 → digits = [0]

theorem asciiDigit?_digitChar {digit : Nat} (small : digit < 10) :
    asciiDigit? (Nat.digitChar digit) = some digit := by
  have each : ∀ k : Fin 10, asciiDigit? (Nat.digitChar k) = some k.val := by decide
  exact each ⟨digit, small⟩

theorem digitChar_zero {digit : Nat} (small : digit < 10) :
    Nat.digitChar digit = '0' ↔ digit = 0 := by
  have each : ∀ k : Fin 10, Nat.digitChar k = '0' ↔ k.val = 0 := by decide
  exact each ⟨digit, small⟩

/-- What stands for a digit is written as that digit. -/
theorem asciiDigit?_some {c : Char} {digit : Nat} (h : asciiDigit? c = some digit) :
    c = Nat.digitChar digit ∧ digit < 10 := by
  have found : c.isDigit = true := by
    unfold asciiDigit? at h
    split at h
    · assumption
    · cases h
  obtain ⟨k, rfl⟩ := digit_char found
  rw [asciiDigit?_digitChar k.isLt] at h
  cases h
  exact ⟨rfl, k.isLt⟩

theorem mapM_digitChar {digits : List Nat} (small : ∀ digit ∈ digits, digit < 10) :
    (digits.map Nat.digitChar).mapM asciiDigit? = some digits := by
  induction digits with
  | nil => rfl
  | cons digit rest ih =>
    rw [List.map_cons, List.mapM_cons, asciiDigit?_digitChar (small digit List.mem_cons_self),
      ih fun other member => small other (List.mem_cons_of_mem _ member)]
    rfl

/-- Digits are read from their characters, and from no others. -/
theorem mapM_asciiDigit?_iff {l : List Char} {digits : List Nat} :
    l.mapM asciiDigit? = some digits ↔
      l = digits.map Nat.digitChar ∧ ∀ digit ∈ digits, digit < 10 := by
  constructor
  · intro h
    induction l generalizing digits with
    | nil =>
      cases h
      simp
    | cons c l ih =>
      rw [List.mapM_cons] at h
      obtain ⟨digit, read, h⟩ := Option.bind_eq_some_iff.mp h
      obtain ⟨rest, others, h⟩ := Option.bind_eq_some_iff.mp h
      cases h
      obtain ⟨rfl, small⟩ := asciiDigit?_some read
      obtain ⟨rfl, bounds⟩ := ih others
      exact ⟨rfl, List.forall_mem_cons.mpr ⟨small, bounds⟩⟩
  · rintro ⟨rfl, small⟩
    exact mapM_digitChar small

/-- Digits behind a number that is not zero go on with its decimal form. -/
theorem toDigits_foldl {digits : List Nat} (small : ∀ digit ∈ digits, digit < 10) {front : Nat}
    (positive : 0 < front) :
    Nat.toDigits 10 (digits.foldl (fun value digit => value * 10 + digit) front) =
      Nat.toDigits 10 front ++ digits.map Nat.digitChar := by
  induction digits generalizing front with
  | nil => simp
  | cons digit rest ih =>
    obtain ⟨first, others⟩ := List.forall_mem_cons.mp small
    have step : Nat.toDigits 10 front ++ [Nat.digitChar digit] =
        Nat.toDigits 10 (front * 10 + digit) := by
      rw [← Nat.toDigits_of_lt_base first, Nat.toDigits_append_toDigits (by decide) positive first,
        Nat.mul_comm]
    have further : 0 < front * 10 + digit := by omega
    calc Nat.toDigits 10 ((digit :: rest).foldl (fun value digit => value * 10 + digit) front)
        = Nat.toDigits 10 (front * 10 + digit) ++ rest.map Nat.digitChar := ih others further
      _ = Nat.toDigits 10 front ++ (digit :: rest).map Nat.digitChar := by
        rw [← step, List.append_assoc]
        rfl

/-- A number that is read from a decimal form is written in that form. -/
theorem IsDecimal.toDigits {digits : List Nat} (h : IsDecimal digits) :
    Nat.toDigits 10 (ofDigits 10 digits) = digits.map Nat.digitChar := by
  match digits with
  | [] => exact absurd rfl h.filled
  | digit :: rest =>
    obtain ⟨first, others⟩ := List.forall_mem_cons.mp h.small
    by_cases zero : digit = 0
    · cases h.plain (by rw [zero]; rfl)
      rfl
    · unfold ofDigits
      rw [List.foldl_cons, Nat.zero_mul, Nat.zero_add,
        toDigits_foldl others (Nat.pos_of_ne_zero zero), Nat.toDigits_of_lt_base first]
      rfl

/-- Every number has a decimal form. The induction takes the last digit off. -/
theorem exists_decimal (n : Nat) : ∃ digits, IsDecimal digits ∧ ofDigits 10 digits = n := by
  induction n using Nat.strongRecOn with
  | ind n ih =>
    by_cases small : n < 10
    · refine ⟨[n], ⟨by simpa using small, by simp, ?_⟩, by simp [ofDigits]⟩
      intro first
      cases first
      rfl
    · obtain ⟨front, decimal, value⟩ := ih (n / 10) (by omega)
      refine ⟨front ++ [n % 10], ⟨?_, by simp, ?_⟩, ?_⟩
      · intro digit member
        rcases List.mem_append.mp member with before | last
        · exact decimal.small digit before
        · cases List.mem_singleton.mp last
          exact Nat.mod_lt _ (by decide)
      · -- A zero in front would be all of the front, and the number small.
        intro first
        have zero : front.head? = some 0 := by
          obtain ⟨leading, rest, rfl⟩ := List.exists_cons_of_ne_nil decimal.filled
          exact first
        rw [decimal.plain zero] at value
        have none : n / 10 = 0 := value.symm
        omega
      · rw [ofDigits_append, value]
        simp only [List.foldl_cons, List.foldl_nil]
        omega

end LakeAdmin.Text
