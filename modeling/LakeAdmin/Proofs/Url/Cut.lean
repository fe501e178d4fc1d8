import LakeAdmin.Proofs.Url.Host
import LakeAdmin.Url.Basic

/-!
Cutting texts into the parts of URLs. Parts of which none holds a character that would
end it can be told from their text: cut, it gives these parts again.
-/

namespace LakeAdmin.Url

open Text

/-! ## Cutting -/

inductive IsScheme : List Char → Prop
  | mk {first : Char} {others : List Char} (letter : first.isAlpha = true)
      (chars : others.all isSchemeChar = true) : IsScheme (first :: others)

theorem isScheme_ne {s : String} (h : IsScheme s.toList) : s ≠ "" := by
  rintro rfl
  cases h

theorem not_mem_of_keep {keep : Char → Bool} {l : List Char} {c : Char}
    (h : ∀ d ∈ l, keep d = true) (hc : keep c = false) : c ∉ l := fun hm =>
  Bool.false_ne_true (hc.symm.trans (h c hm))

theorem scheme_chars {l : List Char} (h : IsScheme l) : ∀ c ∈ l, isSchemeChar c = true := by
  cases h with
  | mk letter chars =>
    intro c hc
    rcases List.mem_cons.mp hc with rfl | hc
    · simp [isSchemeChar, Char.isAlphanum, letter]
    · exact List.all_eq_true.mp chars c hc

theorem cutScheme?_append {scheme : List Char} (h : IsScheme scheme) (rest : List Char) :
    cutScheme? (scheme ++ ':' :: rest) = some (scheme, rest) := by
  have colon : ':' ∉ scheme := not_mem_of_keep (scheme_chars h) (by decide)
  cases h with
  | mk letter chars =>
    unfold cutScheme?
    rw [cutFirst_append colon]
    dsimp only
    rw [letter, chars]
    rfl

theorem cutScheme_append {scheme : List Char} (h : IsScheme scheme) (rest : List Char) :
    cutScheme (scheme ++ ':' :: rest) = (scheme, rest) := by
  have cut := cutScheme?_append h rest
  cases h with
  | mk letter chars =>
    unfold cutScheme
    split
    · rename_i whole
      have first := (List.cons.inj whole).1
      rw [first] at letter
      cases letter
    · rw [cut]
      rfl

/-- What is cut off is a scheme, or there is none. -/
theorem cutScheme_cases (l : List Char) :
    (IsScheme (cutScheme l).1 ∧ l = (cutScheme l).1 ++ ':' :: (cutScheme l).2 ∧
        cutScheme? l = some (cutScheme l)) ∨
      ((cutScheme l).1 = [] ∧ cutScheme? l = none ∧
        ((cutScheme l).2 = l ∨ l = ':' :: (cutScheme l).2)) := by
  unfold cutScheme
  split
  · refine .inr ⟨rfl, ?_, .inr rfl⟩
    simp [cutScheme?, cutFirst]
  · unfold cutScheme?
    rcases cutFirst_cases ':' l with ⟨-, cut⟩ | ⟨before, after, -, whole, cut⟩
    · rw [cut]
      exact .inr ⟨by split <;> simp_all, by split <;> simp_all, .inl (by split <;> simp_all)⟩
    · rw [cut]
      cases before with
      | nil => exact .inr ⟨rfl, rfl, .inl rfl⟩
      | cons first others =>
        dsimp only
        split
        · rename_i valid
          rw [Bool.and_eq_true] at valid
          exact .inl ⟨.mk valid.1 valid.2, whole, rfl⟩
        · exact .inr ⟨rfl, rfl, .inl rfl⟩

theorem cutScheme_subset (l : List Char) : (cutScheme l).2 ⊆ l := by
  intro c hc
  rcases cutScheme_cases l with ⟨-, whole, -⟩ | ⟨-, -, same | whole⟩
  · rw [whole]
    exact List.mem_append_right _ (List.mem_cons_of_mem _ hc)
  · rwa [same] at hc
  · rw [whole]
    exact List.mem_cons_of_mem _ hc

/-- An authority that no character in it ends. -/
def IsAuthority (l : List Char) : Prop := ∀ c ∈ l, endsAuthority c = false

theorem cutAuthority_append {authority rest : List Char} (ha : IsAuthority authority)
    (hr : ∀ c, rest.head? = some c → endsAuthority c = true) :
    cutAuthority ('/' :: '/' :: (authority ++ rest)) = (some authority, rest) := by
  have inside : ∀ c ∈ authority, (!endsAuthority c) = true := fun c hc => by simp [ha c hc]
  have marked (l : List Char) : cutAuthority ('/' :: '/' :: l) =
      (some (l.takeWhile (!endsAuthority ·)), l.dropWhile (!endsAuthority ·)) := rfl
  rw [marked, List.takeWhile_append_of_pos inside, List.dropWhile_append_of_pos inside]
  cases rest with
  | nil => simp
  | cons c rest =>
    have ending := hr c rfl
    simp [ending]

theorem cutAuthority_none {l : List Char} (h : ¬['/', '/'] <+: l) :
    cutAuthority l = (none, l) := by
  unfold cutAuthority
  split
  · rename_i rest
    exact absurd ⟨rest, rfl⟩ h
  · rfl

theorem cutAuthority_subset (l : List Char) : (cutAuthority l).1.getD [] ⊆ l := by
  unfold cutAuthority
  split
  · intro c hc
    have := List.takeWhile_subset _ hc
    simp [this]
  · simp

/-- Characters of ASCII that all have a visible form. Others may stand with them. -/
def IsPrintable (l : List Char) : Prop := ∀ c ∈ l, c.toNat < 128 → isVisible c = true

/-- Characters among which none is `/`, `?` or `#` end no authority. -/
theorem isAuthority_of_keep {keep : Char → Bool} {l : List Char} (h : ∀ c ∈ l, keep c = true)
    (ends : keep '/' = false ∧ keep '?' = false ∧ keep '#' = false) : IsAuthority l := by
  intro c hc
  have slash : c ≠ '/' := fun he => not_mem_of_keep h ends.1 (he ▸ hc)
  have question : c ≠ '?' := fun he => not_mem_of_keep h ends.2.1 (he ▸ hc)
  have hash : c ≠ '#' := fun he => not_mem_of_keep h ends.2.2 (he ▸ hc)
  simp [endsAuthority, slash, question, hash]

/-- What is cut off is an authority. -/
theorem cutAuthority_authority (l : List Char) : IsAuthority ((cutAuthority l).1.getD []) := by
  unfold cutAuthority
  split
  · intro c hc
    have := List.all_eq_true.mp List.all_takeWhile c hc
    simpa using this
  · simp [IsAuthority]

theorem cutAuthority_whole (l : List Char) :
    ∃ front, l = front ++ ((cutAuthority l).1.getD [] ++ (cutAuthority l).2) := by
  unfold cutAuthority
  split
  · refine ⟨['/', '/'], ?_⟩
    simp [List.takeWhile_append_dropWhile]
  · exact ⟨[], rfl⟩

/-- A text without a query and a fragment ends with its authority and its path. -/
theorem cut_whole {l : List Char} (query : (cut l).query = none)
    (fragment : (cut l).fragment = none) :
    ∃ front, l = front ++ ((cut l).authority ++ (cut l).path) := by
  have behind : ∃ front, l = front ++ (cutScheme l).2 := by
    rcases cutScheme_cases l with ⟨-, whole, -⟩ | ⟨-, -, same | whole⟩
    · refine ⟨(cutScheme l).1 ++ [':'], ?_⟩
      rw [List.append_assoc]
      exact whole
    · exact ⟨[], same.symm⟩
    · exact ⟨[':'], whole⟩
  obtain ⟨first, scheme⟩ := behind
  obtain ⟨second, authority⟩ := cutAuthority_whole (cutScheme l).2
  unfold cut at query fragment ⊢
  dsimp only at query fragment ⊢
  rcases cutFirst_cases '#' (cutAuthority (cutScheme l).2).2 with
    ⟨-, cut⟩ | ⟨_, _, -, -, cut⟩
  · rw [cut] at query ⊢
    dsimp only at query ⊢
    rcases cutFirst_cases '?' (cutAuthority (cutScheme l).2).2 with
      ⟨-, cut⟩ | ⟨_, _, -, -, cut⟩
    · rw [cut]
      refine ⟨first ++ second, ?_⟩
      rw [List.append_assoc, ← authority, ← scheme]
    · rw [cut] at query
      cases query
  · rw [cut] at fragment
    cases fragment

/-! ## The text of parts -/

/-- What stands behind the authority. -/
def Parts.tail (parts : Parts) : List Char :=
  parts.path ++ (parts.query.elim [] ('?' :: ·) ++ parts.fragment.elim [] ('#' :: ·))

def Parts.text (parts : Parts) : List Char :=
  parts.scheme ++ ':' :: ((if parts.authority = [] then [] else '/' :: '/' :: parts.authority) ++
    parts.tail)

/-- Parts that can be told from their text. -/
structure Parts.Fit (parts : Parts) : Prop where
  scheme : IsScheme parts.scheme
  authority : IsAuthority parts.authority
  path : '?' ∉ parts.path ∧ '#' ∉ parts.path
  query : ∀ query ∈ parts.query, '#' ∉ query
  rooted : parts.authority ≠ [] → parts.path = [] ∨ parts.path.head? = some '/'
  single : parts.authority = [] → ¬['/', '/'] <+: parts.tail

/-- How the tail is cut. -/
theorem cut_tail {parts : Parts} (path : '?' ∉ parts.path ∧ '#' ∉ parts.path)
    (query : ∀ query ∈ parts.query, '#' ∉ query) :
    ∃ front, cutFirst '#' parts.tail = (front, parts.fragment) ∧
      cutFirst '?' front = (parts.path, parts.query) := by
  have front : '#' ∉ parts.path ++ parts.query.elim [] ('?' :: ·) := by
    rw [List.mem_append, not_or]
    refine ⟨path.2, ?_⟩
    cases hq : parts.query with
    | none => simp
    | some text => simpa using query text hq
  refine ⟨parts.path ++ parts.query.elim [] ('?' :: ·), ?_, ?_⟩
  · unfold Parts.tail
    rw [← List.append_assoc]
    cases parts.fragment with
    | none => simpa using cutFirst_none front
    | some fragment => exact cutFirst_append front fragment
  · cases parts.query with
    | none => simpa using cutFirst_none path.1
    | some query => exact cutFirst_append path.1 query

theorem cutAuthority_text {parts : Parts} (fit : parts.Fit) :
    ∃ found, cutAuthority ((if parts.authority = [] then [] else '/' :: '/' :: parts.authority) ++
        parts.tail) = (found, parts.tail) ∧ found.getD [] = parts.authority := by
  by_cases ha : parts.authority = []
  · rw [if_pos ha]
    exact ⟨none, cutAuthority_none (fit.single ha), ha.symm⟩
  · rw [if_neg ha]
    refine ⟨some parts.authority, cutAuthority_append fit.authority ?_, rfl⟩
    intro c hc
    unfold Parts.tail at hc
    rcases fit.rooted ha with empty | root
    · rw [empty, List.nil_append] at hc
      cases hq : parts.query with
      | some query =>
        rw [hq] at hc
        cases hc
        rfl
      | none =>
        rw [hq] at hc
        cases hf : parts.fragment with
        | some fragment =>
          rw [hf] at hc
          cases hc
          rfl
        | none =>
          rw [hf] at hc
          cases hc
    · rw [List.head?_append, root] at hc
      cases hc
      rfl

/-- The text of parts is cut into these parts. -/
theorem cut_text {parts : Parts} (fit : parts.Fit) : cut parts.text = parts := by
  obtain ⟨found, authority, same⟩ := cutAuthority_text fit
  obtain ⟨front, fragment, query⟩ := cut_tail fit.path fit.query
  unfold cut Parts.text
  rw [cutScheme_append fit.scheme]
  dsimp only
  rw [authority]
  dsimp only
  rw [fragment]
  dsimp only
  rw [query, same]

end LakeAdmin.Url
