import LakeAdmin.Text.Split

/-!
Cutting and joining undo each other. A list that holds no separator is its own only
part, and parts that hold none come back as they were when their join is cut.
-/

namespace LakeAdmin.Text

variable {separator : Char}

/-! ## The first and the last separator -/

theorem cutFirst_none {l : List Char} (h : separator ∉ l) :
    cutFirst separator l = (l, none) := by
  induction l with
  | nil => rfl
  | cons c rest ih =>
    rw [List.mem_cons, not_or] at h
    rw [cutFirst, if_neg (Ne.symm h.1), ih h.2]

theorem cutFirst_append {before : List Char} (h : separator ∉ before) (after : List Char) :
    cutFirst separator (before ++ separator :: after) = (before, some after) := by
  induction before with
  | nil => simp [cutFirst]
  | cons c rest ih =>
    rw [List.mem_cons, not_or] at h
    rw [List.cons_append, cutFirst, if_neg (Ne.symm h.1), ih h.2]

/-- The two ways a list is cut. -/
theorem cutFirst_cases (separator : Char) (l : List Char) :
    (separator ∉ l ∧ cutFirst separator l = (l, none)) ∨
      ∃ before after, separator ∉ before ∧ l = before ++ separator :: after ∧
        cutFirst separator l = (before, some after) := by
  induction l with
  | nil => exact .inl ⟨by simp, rfl⟩
  | cons c rest ih =>
    by_cases hc : c = separator
    · subst hc
      exact .inr ⟨[], rest, by simp, rfl, by simp [cutFirst]⟩
    · rcases ih with ⟨none, cut⟩ | ⟨before, after, none, rfl, cut⟩
      · left
        have out : separator ∉ c :: rest := by simp [Ne.symm hc, none]
        exact ⟨out, cutFirst_none out⟩
      · right
        have out : separator ∉ c :: before := by simp [Ne.symm hc, none]
        exact ⟨c :: before, after, out, rfl, cutFirst_append out after⟩

theorem cutLast_none {l : List Char} (h : separator ∉ l) : cutLast? separator l = none := by
  unfold cutLast?
  rw [cutFirst_none (by simpa using h)]

theorem cutLast_append (before : List Char) {after : List Char} (h : separator ∉ after) :
    cutLast? separator (before ++ separator :: after) = some (before, after) := by
  unfold cutLast?
  have reversed : (before ++ separator :: after).reverse =
      after.reverse ++ separator :: before.reverse := by simp
  rw [reversed, cutFirst_append (by simpa using h)]
  simp

/-- The two ways a list is cut at its end. -/
theorem cutLast_cases (separator : Char) (l : List Char) :
    (separator ∉ l ∧ cutLast? separator l = none) ∨
      ∃ before after, separator ∉ after ∧ l = before ++ separator :: after ∧
        cutLast? separator l = some (before, after) := by
  rcases cutFirst_cases separator l.reverse with ⟨none, -⟩ | ⟨back, front, none, whole, -⟩
  · left
    have out : separator ∉ l := by simpa using none
    exact ⟨out, cutLast_none out⟩
  · right
    have out : separator ∉ back.reverse := by simpa using none
    have split : l = front.reverse ++ separator :: back.reverse := by
      rw [← List.reverse_reverse l, whole]
      simp
    exact ⟨front.reverse, back.reverse, out, split, by rw [split, cutLast_append _ out]⟩

/-! ## All separators -/

theorem splitAt_ne_nil (separator : Char) (l : List Char) : splitAt separator l ≠ [] := by
  induction l with
  | nil => simp [splitAt]
  | cons c rest ih =>
    unfold splitAt
    split
    · simp
    · split <;> simp

theorem splitAt_none {l : List Char} (h : separator ∉ l) : splitAt separator l = [l] := by
  induction l with
  | nil => rfl
  | cons c rest ih =>
    rw [List.mem_cons, not_or] at h
    rw [splitAt, if_neg (Ne.symm h.1), ih h.2]

theorem splitAt_append (before after : List Char) :
    splitAt separator (before ++ separator :: after) =
      splitAt separator before ++ splitAt separator after := by
  induction before with
  | nil => simp [splitAt]
  | cons c rest ih =>
    by_cases hc : c = separator
    · rw [List.cons_append, splitAt, if_pos hc, splitAt, if_pos hc, ih]
      rfl
    · rw [List.cons_append, splitAt, if_neg hc, splitAt, if_neg hc, ih]
      cases hs : splitAt separator rest with
      | nil => exact absurd hs (splitAt_ne_nil _ _)
      | cons part parts => rfl

theorem splitAt_joinWith {parts : List (List Char)} (hne : parts ≠ [])
    (h : ∀ part ∈ parts, separator ∉ part) :
    splitAt separator (joinWith separator parts) = parts := by
  induction parts with
  | nil => exact absurd rfl hne
  | cons part rest ih =>
    have first : separator ∉ part := h part (by simp)
    cases rest with
    | nil => exact splitAt_none first
    | cons next rest =>
      rw [joinWith, splitAt_append, splitAt_none first,
        ih (by simp) fun other ho => h other (by simp [ho])]
      rfl

theorem joinWith_splitAt (separator : Char) (l : List Char) :
    joinWith separator (splitAt separator l) = l := by
  induction l with
  | nil => rfl
  | cons c rest ih =>
    unfold splitAt
    split
    · rename_i hc
      cases hs : splitAt separator rest with
      | nil => exact absurd hs (splitAt_ne_nil _ _)
      | cons part parts =>
        rw [joinWith, ← hs, ih, hc]
        rfl
    · cases hs : splitAt separator rest with
      | nil => exact absurd hs (splitAt_ne_nil _ _)
      | cons part parts =>
        rw [hs] at ih
        dsimp only
        cases parts with
        | nil => exact congrArg (c :: ·) ih
        | cons next parts => exact congrArg (c :: ·) ih

theorem not_mem_splitAt {l part : List Char} (h : part ∈ splitAt separator l) :
    separator ∉ part := by
  induction l generalizing part with
  | nil => simp_all [splitAt]
  | cons c rest ih =>
    unfold splitAt at h
    split at h
    · rcases List.mem_cons.mp h with rfl | hm
      · simp
      · exact ih hm
    · rename_i hc
      cases hs : splitAt separator rest with
      | nil => exact absurd hs (splitAt_ne_nil _ _)
      | cons first parts =>
        rw [hs] at h ih
        rcases List.mem_cons.mp h with rfl | hm
        · have := ih (List.mem_cons_self)
          simp [Ne.symm hc, this]
        · exact ih (List.mem_cons_of_mem _ hm)

theorem mem_joinWith {parts : List (List Char)} {c : Char} (h : c ∈ joinWith separator parts) :
    c = separator ∨ ∃ part ∈ parts, c ∈ part := by
  induction parts with
  | nil => simp [joinWith] at h
  | cons part rest ih =>
    cases rest with
    | nil => exact .inr ⟨part, by simp, h⟩
    | cons next rest =>
      rw [joinWith, List.mem_append, List.mem_cons] at h
      rcases h with hm | rfl | hm
      · exact .inr ⟨part, by simp, hm⟩
      · exact .inl rfl
      · rcases ih hm with rfl | ⟨other, ho, hc⟩
        · exact .inl rfl
        · exact .inr ⟨other, by simp [ho], hc⟩

theorem mem_of_mem_joinWith {parts : List (List Char)} {part : List Char} {c : Char}
    (hp : part ∈ parts) (hc : c ∈ part) : c ∈ joinWith separator parts := by
  induction parts with
  | nil => cases hp
  | cons first rest ih =>
    cases rest with
    | nil =>
      rw [List.mem_singleton] at hp
      exact hp ▸ hc
    | cons next rest =>
      rw [joinWith, List.mem_append, List.mem_cons]
      rcases List.mem_cons.mp hp with rfl | hm
      · exact .inl hc
      · exact .inr (.inr (ih hm))

/-- What stands in a part stands in the whole. -/
theorem mem_of_mem_splitAt {l part : List Char} {c : Char} (hp : part ∈ splitAt separator l)
    (hc : c ∈ part) : c ∈ l := by
  rw [← joinWith_splitAt separator l]
  exact mem_of_mem_joinWith hp hc

/-- Texts with a separator between them are their characters, joined. -/
theorem intercalate_joinWith {text : String} (single : text.toList = [separator])
    (parts : List String) :
    (text.intercalate parts).toList = joinWith separator (parts.map String.toList) := by
  rw [String.toList_intercalate, single]
  induction parts with
  | nil => rfl
  | cons part rest ih =>
    cases rest with
    | nil => simp [joinWith]
    | cons next rest =>
      simp only [List.map_cons, List.intercalate_cons_cons, joinWith] at ih ⊢
      rw [ih]
      simp

end LakeAdmin.Text
