import LakeAdmin.Proofs.Url.Place

/-!
How references begin. Reading a reference that names no place of its own writes only its path,
its query and its fragment, and encoding these makes no scheme and no authority in front of
them that was not there. A lone colon is dropped in front, so what stands behind it does count.
-/

namespace LakeAdmin

open Text

/-! ## Beginnings -/

namespace Text

/-- A text that begins both of these and holds nothing that the second starts with ends within
the first. -/
theorem prefix_left {front l tail : List Char} (ends : ∀ c, tail.head? = some c → c ∉ front)
    (h : front <+: l ++ tail) : front <+: l := by
  rcases List.prefix_or_prefix_of_prefix h (List.prefix_append l tail) with inside | ⟨more, rfl⟩
  · exact inside
  · cases more with
    | nil => simp
    | cons c more =>
      obtain ⟨rest, whole⟩ := h
      rw [List.append_assoc, List.append_cancel_left_eq] at whole
      exact absurd (by simp) (ends c (by rw [← whole]; rfl))

/-- Encoding makes no beginning that was not there, but for percent signs. -/
theorem Percent.front {keep : Char → Bool} {front l : List Char} (unmarked : '%' ∉ front)
    (h : front <+: l.flatMap (Percent.encodeChar keep)) : front <+: l := by
  induction l generalizing front with
  | nil => simpa using h
  | cons c rest ih =>
    cases front with
    | nil => exact List.nil_prefix
    | cons d front =>
      rw [List.mem_cons, not_or] at unmarked
      rw [List.flatMap_cons] at h
      by_cases kept : keep c = true
      · have single : Percent.encodeChar keep c = [c] := if_pos kept
        rw [single, List.singleton_append, List.cons_prefix_cons] at h
        exact List.cons_prefix_cons.mpr ⟨h.1, ih unmarked.2 h.2⟩
      · have triples : ∃ more, Percent.encodeChar keep c = '%' :: more := by
          unfold Percent.encodeChar
          rw [if_neg kept]
          cases hb : String.utf8EncodeChar c with
          | nil => exact absurd hb String.utf8EncodeChar_ne_nil
          | cons b bytes => exact ⟨_, rfl⟩
        obtain ⟨more, whole⟩ := triples
        rw [whole, List.cons_append, List.cons_prefix_cons] at h
        exact absurd h.1.symm unmarked.1

end Text

namespace Url

/-- A text that begins with a scheme and its colon. -/
def NamesScheme (l : List Char) : Prop :=
  ∃ scheme rest, IsScheme scheme ∧ l = scheme ++ ':' :: rest

theorem cutScheme?_eq_none {l : List Char} : cutScheme? l = none ↔ ¬NamesScheme l := by
  constructor
  · rintro none ⟨scheme, rest, valid, rfl⟩
    rw [cutScheme?_append valid] at none
    cases none
  · intro schemeless
    rcases cutScheme_cases l with ⟨valid, whole, -⟩ | ⟨-, none, -⟩
    · exact absurd ⟨_, _, valid, whole⟩ schemeless
    · exact none

theorem namesScheme_iff {l : List Char} :
    NamesScheme l ↔ ∃ scheme, IsScheme scheme ∧ scheme ++ [':'] <+: l := by
  constructor
  · rintro ⟨scheme, rest, valid, rfl⟩
    exact ⟨scheme, valid, rest, by simp⟩
  · rintro ⟨scheme, valid, rest, whole⟩
    exact ⟨scheme, rest, valid, by simp [← whole]⟩

theorem namesScheme_kept {l : List Char} (h : NamesScheme l) : l.dropWhile (· = '/') = l := by
  obtain ⟨scheme, rest, valid, rfl⟩ := h
  cases valid with
  | @mk first others letter chars =>
    refine List.dropWhile_cons_of_neg ?_
    intro slash
    rw [decide_eq_true_eq.mp slash] at letter
    cases letter

/-- A text with a scheme has no slashes in front. -/
theorem dropLeading_named {s : String} (h : NamesScheme s.toList) :
    dropLeading (· = '/') s = s := by
  unfold dropLeading
  rw [namesScheme_kept h, String.ofList_toList]

theorem schemeChar_path {c : Char} (h : isSchemeChar c = true) :
    isPathChar c = true ∧ c ≠ '%' := by
  have low : c.toNat < 128 := by
    unfold isSchemeChar at h
    simp only [Bool.or_eq_true, beq_iff_eq] at h
    rcases h with ((h | rfl) | rfl) | rfl
    · exact isHostChar_ascii (by simp [isHostChar, Percent.isUnreserved, h])
    all_goals decide
  exact ascii_cases (p := fun c => isSchemeChar c = true → isPathChar c = true ∧ c ≠ '%')
    (by decide) low h

/-- A path may hold a scheme and its colon. -/
theorem schemeMark_path {scheme : List Char} (valid : IsScheme scheme) :
    ∀ c ∈ scheme ++ [':'], isPathChar c = true ∧ c ≠ '%' := by
  intro c hc
  rcases List.mem_append.mp hc with hc | hc
  · exact schemeChar_path (scheme_chars valid c hc)
  · rw [List.mem_singleton.mp hc]
    decide

/-! ## What stands behind a place -/

/-- What stands behind the authority is cut into the other parts. -/
theorem cut_behind (l : List Char) :
    (cutAuthority (cutScheme l).2).2 = (cut l).tail ∧ '?' ∉ (cut l).path ∧ '#' ∉ (cut l).path ∧
      ∀ query ∈ (cut l).query, '#' ∉ query := by
  unfold cut Parts.tail
  dsimp only
  generalize (cutAuthority (cutScheme l).2).2 = behind
  rcases cutFirst_cases '#' behind with ⟨unmarked, cut⟩ | ⟨front, fragment, unmarked, rfl, cut⟩
  · rw [cut]
    dsimp only
    rcases cutFirst_cases '?' behind with ⟨none, cut'⟩ | ⟨path, query, none, rfl, cut'⟩
    · rw [cut']
      exact ⟨by simp, none, unmarked, nofun⟩
    · rw [cut']
      rw [List.mem_append, List.mem_cons, not_or, not_or] at unmarked
      refine ⟨by simp, none, unmarked.1, ?_⟩
      rintro _ ⟨⟩
      exact unmarked.2.2
  · rw [cut]
    dsimp only
    rcases cutFirst_cases '?' front with ⟨none, cut'⟩ | ⟨path, query, none, rfl, cut'⟩
    · rw [cut']
      exact ⟨by simp, none, unmarked, nofun⟩
    · rw [cut']
      rw [List.mem_append, List.mem_cons, not_or, not_or] at unmarked
      refine ⟨by simp, none, unmarked.1, ?_⟩
      rintro _ ⟨⟩
      exact unmarked.2.2

/-- Behind the path stand a question mark or a hash, if anything. -/
theorem tail_mark (parts : Parts) {c : Char}
    (h : (parts.query.elim [] ('?' :: ·) ++ parts.fragment.elim [] ('#' :: ·)).head? = some c) :
    c = '?' ∨ c = '#' := by
  cases hq : parts.query with
  | some query =>
    rw [hq] at h
    cases h
    exact .inl rfl
  | none =>
    rw [hq] at h
    cases hf : parts.fragment with
    | some fragment =>
      rw [hf] at h
      cases h
      exact .inr rfl
    | none =>
      rw [hf] at h
      cases h

theorem tail_front {parts : Parts} {front : List Char} (h : front <+: parts.tail)
    (question : '?' ∉ front) (hash : '#' ∉ front) : front <+: parts.path := by
  refine prefix_left (fun c hc => ?_) h
  rcases tail_mark parts hc with rfl | rfl
  · exact question
  · exact hash

/-! ## References without a place -/

/-- How a reference is read that names neither a scheme nor, behind a lone colon at most, an
authority. -/
structure Placeless (l : List Char) (r : Url) : Prop where
  scheme : r.scheme = ""
  authority : r.authority = ""
  path : r.path = Percent.encode isPathChar (String.ofList (cut l).path)
  checked : checkPath false false (cut l).path = .ok ()
  whole : (cutScheme l).2 = (cut l).tail

theorem parse_placeless {s : String} {r : Url} (hr : parse s = .ok r)
    (schemeless : ¬NamesScheme s.toList) (single : ¬['/', '/'] <+: (cutScheme s.toList).2) :
    Placeless s.toList r := by
  obtain ⟨made, -⟩ := parse_ok hr
  have unnamed : (cut s.toList).scheme = [] := by
    rcases cutScheme_cases s.toList with ⟨valid, whole, -⟩ | ⟨none, -⟩
    · exact absurd ⟨_, _, valid, whole⟩ schemeless
    · exact none
  have behind := cutAuthority_none single
  have nowhere : (cut s.toList).authority = [] := by
    unfold cut
    dsimp only
    rw [behind]
    rfl
  have host : r.host = "" := by
    have read := made.host
    rw [nowhere] at read
    exact (Except.ok.inj read).symm
  have port : r.port = none := by
    have read := made.port
    rw [nowhere] at read
    exact (Except.ok.inj read).symm
  have user : r.userInfo = "" := by
    rw [made.user_eq, nowhere]
    rfl
  have place : namesPlace r (cut s.toList) = false := by
    unfold namesPlace
    rw [nowhere, host, port]
    rfl
  have path := made.path_eq
  have checked := made.checked
  rw [place, unnamed] at path checked
  refine ⟨?_, ?_, path, checked, ?_⟩
  · rw [made.scheme_eq, unnamed]
    simp [lowerAscii]
  · unfold authority
    rw [user, host, port]
    rfl
  · rw [← (cut_behind s.toList).1, behind]

/-- The text that such a reference is read into. -/
theorem placeless_text {l : List Char} {r : Url} (h : Placeless l r) :
    r.toText.toList = (cut l).path.flatMap (Percent.encodeChar isPathChar) ++
      (r.parts.query.elim [] ('?' :: ·) ++ r.parts.fragment.elim [] ('#' :: ·)) := by
  rw [toText_schemeless h.scheme, if_pos h.authority, List.nil_append]
  show r.path.toList ++ _ = _
  rw [h.path]
  unfold Percent.encode
  rw [String.toList_ofList, String.toList_ofList]

/-- What begins the text did so before it was read. -/
theorem placeless_began {l : List Char} {r : Url} (h : Placeless l r) {front : List Char}
    (plain : ∀ c ∈ front, isPathChar c = true ∧ c ≠ '%') (began : front <+: r.toText.toList) :
    front <+: (cutScheme l).2 := by
  have kept : ∀ c ∈ front, isPathChar c = true := fun c hc => (plain c hc).1
  rw [placeless_text h] at began
  have inside : front <+: (cut l).path.flatMap (Percent.encodeChar isPathChar) := by
    refine prefix_left (fun c hc => ?_) began
    rcases tail_mark r.parts hc with rfl | rfl <;> exact not_mem_of_keep kept (by decide)
  have path := Percent.front (fun marked => (plain _ marked).2 rfl) inside
  rw [h.whole]
  exact path.trans (List.prefix_append _ _)

/-- What a path may hold is written as it was at the beginning. Where an authority ended
behind it, one does so still. -/
theorem placeless_begins {l : List Char} {r : Url} (h : Placeless l r) {front tail : List Char}
    (kept : ∀ c ∈ front, isPathChar c = true) (whole : (cutScheme l).2 = front ++ tail) :
    ∃ more, r.toText.toList = front ++ more ∧
      ((∀ c, tail.head? = some c → endsAuthority c = true) →
        ∀ c, more.head? = some c → endsAuthority c = true) := by
  have behind : front ++ tail = (cut l).tail := whole.symm.trans h.whole
  obtain ⟨rest, path⟩ : front <+: (cut l).path := by
    refine tail_front ⟨tail, behind⟩ ?_ ?_ <;> exact not_mem_of_keep kept (by decide)
  have same : front.flatMap (Percent.encodeChar isPathChar) = front := by
    have text := Percent.encode_eq_self (s := String.ofList front) (by simpa using kept)
    unfold Percent.encode at text
    simpa using congrArg String.toList text
  have text := placeless_text h
  rw [← path, List.flatMap_append, same, List.append_assoc] at text
  refine ⟨_, text, ?_⟩
  intro ends c hc
  cases rest with
  | nil =>
    rcases tail_mark r.parts hc with rfl | rfl <;> rfl
  | cons d rest =>
    -- What goes on in the path ended the authority, so it is a slash, which a path keeps.
    have ending : endsAuthority d = true := by
      refine ends d ?_
      unfold Parts.tail at behind
      rw [← path, List.append_assoc, List.append_cancel_left_eq] at behind
      rw [behind]
      rfl
    have inside : d ∈ (cut l).path := by simp [← path]
    obtain ⟨-, question, hash, -⟩ := cut_behind l
    have slash : d = '/' := by
      unfold endsAuthority at ending
      simp only [Bool.or_eq_true, beq_iff_eq] at ending
      rcases ending with (rfl | rfl) | rfl
      · rfl
      · exact absurd inside question
      · exact absurd inside hash
    subst slash
    have single : Percent.encodeChar isPathChar '/' = ['/'] := by decide
    rw [List.flatMap_cons, single] at hc
    cases hc
    rfl

end Url

end LakeAdmin
