import LakeAdmin.Proofs.Url.Again
import LakeAdmin.Proofs.Url.Front

/-!
References without a place beside a base URL. Merged into it they have the scheme and the
authority of the base, and hold nothing that reading would write otherwise: what is read from
the merged text is written no longer than it was.
-/

namespace LakeAdmin.Url

open Text

/-! ## Parts that are read as they are -/

/-- Parts that hold nothing that reading would write otherwise. -/
structure Parts.Plain (parts : Parts) : Prop where
  path : ∀ c ∈ parts.path, isPathChar c = true
  query : ∀ query ∈ parts.query, ∀ c ∈ query, isQueryChar c = true
  fragment : ∀ fragment ∈ parts.fragment, ∀ c ∈ fragment, isFragmentChar c = true

theorem parts_plain {u : Url} (h : u.Written) : u.parts.Plain where
  path := h.path
  query := by
    intro query hq
    obtain ⟨q, found, rfl⟩ := Option.map_eq_some_iff.mp hq
    exact h.query q found
  fragment := by
    intro fragment hf
    obtain ⟨f, found, rfl⟩ := Option.map_eq_some_iff.mp hf
    exact h.fragment f found

/-- What is kept of segments is some of them. -/
theorem follow_sublist (segments kept : List (List Char)) :
    (segments.foldl follow kept).Sublist (kept ++ segments) := by
  induction segments generalizing kept with
  | nil => simp
  | cons segment rest ih =>
    have step : (follow kept segment).Sublist (kept ++ [segment]) := by
      unfold follow
      split
      · exact List.sublist_append_left _ _
      · split
        · split
          · exact List.sublist_append_left _ _
          · exact (List.dropLast_sublist _).trans (List.sublist_append_left _ _)
        · exact List.Sublist.refl _
    have whole : kept ++ segment :: rest = kept ++ [segment] ++ rest := by simp
    rw [List.foldl_cons, whole]
    exact (ih _).trans (step.append_right rest)

theorem sublist_room {some all : List (List Char)} (h : some.Sublist all) :
    room some ≤ room all := by
  induction h with
  | slnil => exact Nat.le_refl _
  | cons _ _ ih =>
    simp only [room, List.map_cons, List.sum_cons] at ih ⊢
    omega
  | cons_cons _ _ ih =>
    simp only [room, List.map_cons, List.sum_cons] at ih ⊢
    omega

/-- A path gets no longer when its dot segments are removed. -/
theorem removeDots_length (path : List Char) : (removeDots path).length ≤ path.length := by
  have kept := sublist_room (follow_sublist (splitAt '/' path) [])
  rw [List.nil_append, splitAt_room] at kept
  rw [removeDots_eq]
  generalize (splitAt '/' path).foldl follow [] = segments at kept ⊢
  by_cases none : segments = []
  · simp [none, joinWith]
  · have := joinWith_length none
    omega

theorem mem_removeDots {path : List Char} {c : Char} (h : c ∈ removeDots path) :
    c = '/' ∨ c ∈ path := by
  rw [removeDots_eq] at h
  rcases mem_joinWith h with rfl | ⟨segment, hs, hc⟩
  · exact .inl rfl
  · have inside := (follow_sublist (splitAt '/' path) []).subset hs
    exact .inr (mem_of_mem_splitAt inside hc)

/-- What stands behind the place of plain parts is read into no more than it was. -/
theorem fromParts_shorter {parts : Parts} {u : Url} (plain : parts.Plain)
    (made : FromParts parts u) : u.parts.tail.length ≤ parts.tail.length := by
  -- Nothing is encoded, so only the dot segments of the path can make a difference.
  have path : u.path.toList.length ≤ parts.path.length := by
    rw [made.path_eq]
    split
    · rw [Percent.encode_eq_self, String.toList_ofList]
      · exact removeDots_length _
      · intro c hc
        rw [String.toList_ofList] at hc
        rcases mem_removeDots hc with rfl | inside
        · decide
        · exact plain.path c inside
    · exact Nat.le_of_eq (by rw [Percent.encode_eq_self (by simpa using plain.path),
        String.toList_ofList])
  have query : u.query.map String.toList = parts.query := by
    rw [made.query_eq]
    cases hq : parts.query with
    | none => rfl
    | some q =>
      have kept := Percent.encode_eq_self (s := String.ofList q) (by simpa using plain.query q hq)
      simp [kept]
  have fragment : u.fragment.map String.toList = parts.fragment := by
    rw [made.fragment_eq]
    cases hf : parts.fragment with
    | none => rfl
    | some f =>
      have kept := Percent.encode_eq_self (s := String.ofList f) (by simpa using plain.fragment f hf)
      simp [kept]
  unfold Parts.tail Url.parts
  dsimp only
  rw [query, fragment]
  simp only [List.length_append]
  omega

/-! ## References that are written as parts -/

namespace Reference

/-- Parts of a reference in which every character may stand. -/
structure Plain (r : Reference) : Prop where
  path : ∀ c ∈ r.path, isPathChar c = true
  params : ∀ c ∈ r.params, isPathChar c = true
  query : ∀ c ∈ r.query, isQueryChar c = true
  fragment : ∀ c ∈ r.fragment, isFragmentChar c = true

/-- The parts of the text of a reference with a place. -/
def parts (r : Reference) : Parts :=
  let path := if r.params.isEmpty then r.path else r.path ++ ';' :: r.params
  { scheme := r.scheme.toList
    authority := r.authority
    path := if path.isEmpty || path.head? = some '/' then path else '/' :: path
    query := if r.query.isEmpty then none else some r.query
    fragment := if r.fragment.isEmpty then none else some r.fragment }

theorem parts_tail (r : Reference) : r.parts.tail = r.tail := by
  unfold parts Parts.tail tail
  dsimp only
  congr 2
  · split <;> rfl
  · split <;> rfl

theorem parts_text {r : Reference} (hs : r.scheme ≠ "") (ha : r.authority ≠ []) :
    r.toText.toList = r.parts.text := by
  rw [toText_toList hs ha, ← parts_tail]
  unfold Parts.text
  rw [if_neg (show r.parts.authority ≠ [] from ha)]
  rfl

theorem plain_parts {r : Reference} (h : r.Plain) : r.parts.Plain where
  path := by
    have whole : ∀ c ∈ (if r.params.isEmpty then r.path else r.path ++ ';' :: r.params),
        isPathChar c = true := by
      intro c hc
      split at hc
      · exact h.path c hc
      · rcases List.mem_append.mp hc with hc | hc
        · exact h.path c hc
        · rcases List.mem_cons.mp hc with rfl | hc
          · decide
          · exact h.params c hc
    unfold parts
    dsimp only
    generalize (if r.params.isEmpty then r.path else r.path ++ ';' :: r.params) = path at whole
    intro c hc
    split at hc
    · exact whole c hc
    · rcases List.mem_cons.mp hc with rfl | hc
      · decide
      · exact whole c hc
  query := by
    intro query hq
    unfold parts at hq
    dsimp only at hq
    split at hq
    · cases hq
    · cases hq
      exact h.query
  fragment := by
    intro fragment hf
    unfold parts at hf
    dsimp only at hf
    split at hf
    · cases hf
    · cases hf
      exact h.fragment

/-- The parts of a reference with a place can be told from its text. -/
theorem plain_fit {r : Reference} (h : r.Plain) (scheme : IsScheme r.scheme.toList)
    (place : r.authority ≠ []) (authority : IsAuthority r.authority) : r.parts.Fit where
  scheme := scheme
  authority := authority
  path := ⟨not_mem_of_keep (plain_parts h).path (by decide),
    not_mem_of_keep (plain_parts h).path (by decide)⟩
  query := fun query hq => not_mem_of_keep ((plain_parts h).query query hq) (by decide)
  rooted := by
    intro _
    unfold parts
    dsimp only
    generalize (if r.params.isEmpty then r.path else r.path ++ ';' :: r.params) = path
    split
    · rename_i root
      simpa using root
    · exact .inr rfl
  single := fun empty => absurd empty place

/-! ## Merging -/

theorem mem_cutParams {path : List Char} {c : Char}
    (h : c ∈ (cutParams path).1 ∨ c ∈ (cutParams path).2) : c ∈ path := by
  have segment (l : List Char) (h : c ∈ (cutFirst ';' l).1 ∨ c ∈ (cutFirst ';' l).2.getD []) :
      c ∈ l := by
    rcases cutFirst_cases ';' l with ⟨-, cut⟩ | ⟨before, after, -, rfl, cut⟩
    · rw [cut] at h
      simpa using h
    · rw [cut] at h
      rcases h with h | h
      · exact List.mem_append_left _ h
      · exact List.mem_append_right _ (List.mem_cons_of_mem _ h)
  unfold cutParams at h
  rcases cutLast_cases '/' path with ⟨-, cut⟩ | ⟨front, last, -, whole, cut⟩
  · rw [cut] at h
    exact segment path h
  · rw [cut] at h
    dsimp only at h
    rw [whole]
    rcases h with h | h
    · rcases List.mem_append.mp h with h | h
      · exact List.mem_append_left _ h
      · rcases List.mem_cons.mp h with rfl | h
        · simp
        · exact List.mem_append_right _ (List.mem_cons_of_mem _ (segment last (.inl h)))
    · exact List.mem_append_right _ (List.mem_cons_of_mem _ (segment last (.inr h)))

theorem mem_mergeSegments {base path segment : List Char}
    (h : segment ∈ mergeSegments base path) :
    segment = [] ∨ segment ∈ splitAt '/' base ∨ segment ∈ splitAt '/' path := by
  unfold mergeSegments at h
  split at h
  · exact .inr (.inr h)
  · dsimp only at h
    have all : ∀ s ∈ (if (splitAt '/' base).getLast? = some [] then splitAt '/' base
        else (splitAt '/' base).dropLast) ++ splitAt '/' path,
        s ∈ splitAt '/' base ∨ s ∈ splitAt '/' path := by
      intro s hs
      rcases List.mem_append.mp hs with hs | hs
      · split at hs
        · exact .inl hs
        · exact .inl (List.dropLast_subset _ hs)
      · exact .inr hs
    generalize (if (splitAt '/' base).getLast? = some [] then splitAt '/' base
        else (splitAt '/' base).dropLast) ++ splitAt '/' path = segments at h all
    cases segments with
    | nil => cases h
    | cons first rest =>
      cases rest with
      | nil => exact .inr (all segment h)
      | cons next rest =>
        dsimp only at h
        rcases List.mem_append.mp h with h | h
        · refine .inr (all segment ?_)
          rcases List.mem_cons.mp h with rfl | h
          · exact List.mem_cons_self
          · have inner := List.dropLast_subset _ (List.mem_filter.mp h).1
            exact List.mem_cons_of_mem _ inner
        · rw [List.mem_singleton, List.getLastD_eq_getLast?] at h
          cases hl : (next :: rest).getLast? with
          | none =>
            rw [hl] at h
            exact .inl h
          | some last =>
            rw [hl, Option.getD_some] at h
            rw [h]
            exact .inr (all last (List.mem_cons_of_mem _ (List.mem_of_getLast? hl)))

theorem mem_mergePath {base path : List Char} {c : Char} (h : c ∈ mergePath base path) :
    c = '/' ∨ c ∈ base ∨ c ∈ path := by
  have merged : c ∈ joinWith '/' (removeDots (mergeSegments base path)) ∨ c = '/' := by
    unfold mergePath at h
    dsimp only at h
    split at h
    · exact .inr (List.mem_singleton.mp h)
    · exact .inl h
  rcases merged with merged | slash
  · rcases mem_joinWith merged with slash | ⟨segment, hs, hc⟩
    · exact .inl slash
    · rcases mem_removeDots hs with rfl | ⟨hs, -⟩
      · cases hc
      · rcases mem_mergeSegments hs with rfl | hs | hs
        · cases hc
        · exact .inr (.inl (mem_of_mem_splitAt hs hc))
        · exact .inr (.inr (mem_of_mem_splitAt hs hc))
  · exact .inl slash

/-- Parts that hold what the path, the query and the fragment of a URL do. -/
theorem plain_url {u : Url} (h : u.Written) (scheme : String) (authority : List Char) :
    Plain ⟨scheme, authority, (cutParams u.path.toList).1, (cutParams u.path.toList).2,
      u.parts.query.getD [], u.parts.fragment.getD []⟩ where
  path := fun c hc => h.path c (mem_cutParams (.inl hc))
  params := fun c hc => h.path c (mem_cutParams (.inr hc))
  query := by
    intro c hc
    cases hq : u.parts.query with
    | none => simp [hq] at hc
    | some q =>
      rw [hq] at hc
      exact (parts_plain h).query q hq c hc
  fragment := by
    intro c hc
    cases hf : u.parts.fragment with
    | none => simp [hf] at hc
    | some f =>
      rw [hf] at hc
      exact (parts_plain h).fragment f hf c hc

/-- How a URL is read as a reference whose text names no place. -/
theorem split_schemeless {r : Url} (h : r.Written) (scheme : r.scheme = "")
    (authority : r.authority = "") (schemeless : ¬NamesScheme r.toText.toList)
    (single : ¬['/', '/'] <+: r.toText.toList) {usual : String}
    (http : usual = "http" ∨ usual = "https") :
    split usual r.toText = .ok ⟨usual, [], (cutParams r.path.toList).1,
      (cutParams r.path.toList).2, r.parts.query.getD [], r.parts.fragment.getD []⟩ := by
  have params : paramsSchemes.contains usual = true := by
    rcases http with same | same <;> rw [same] <;> decide
  have text : r.toText.toList = r.parts.tail := by
    rw [toText_schemeless scheme, if_pos authority, List.nil_append]
  have path : '?' ∉ r.parts.path ∧ '#' ∉ r.parts.path :=
    ⟨not_mem_of_keep h.path (by decide), not_mem_of_keep h.path (by decide)⟩
  obtain ⟨front, fragment, query⟩ := cut_tail path fun query hq =>
    not_mem_of_keep ((parts_plain h).query query hq) (by decide)
  unfold split
  rw [clean_schemeless h scheme]
  dsimp only
  rw [cutScheme?_eq_none.mpr schemeless]
  dsimp only
  rw [cutAuthority_none single]
  dsimp only
  rw [text, fragment]
  dsimp only
  rw [query]
  simp only [params, if_true]
  rfl

/-- A reference with the scheme of the base keeps its own authority. -/
theorem place_there {b r : Reference} (reference : String)
    (http : b.scheme = "http" ∨ b.scheme = "https") (same : r.scheme = b.scheme)
    (named : r.authority ≠ []) : place b r reference = r.toText := by
  have known := http_known http
  rw [← same] at known
  unfold place
  rw [if_neg (by rw [known.1]; simp [same]), known.2]
  dsimp only
  rw [if_pos (by simpa using named)]

/-- A reference without a place takes that of the base. -/
theorem place_beside {b r : Reference} (reference : String)
    (http : b.scheme = "http" ∨ b.scheme = "https") (same : r.scheme = b.scheme)
    (nowhere : r.authority = []) (hb : b.Plain) (hr : r.Plain) :
    ∃ placed : Reference, place b r reference = placed.toText ∧ placed.scheme = b.scheme ∧
      placed.authority = b.authority ∧ placed.Plain := by
  have known := http_known http
  rw [← same] at known
  unfold place
  rw [if_neg (by rw [known.1]; simp [same]), known.2, nowhere]
  dsimp only
  rw [if_neg (by simp), if_pos rfl]
  split
  · refine ⟨_, rfl, same, rfl, hb.path, hb.params, ?_, hr.fragment⟩
    dsimp only
    split
    · exact hb.query
    · exact hr.query
  · refine ⟨_, rfl, same, rfl, ?_, hr.params, hr.query, hr.fragment⟩
    intro c hc
    rcases mem_mergePath hc with rfl | hc | hc
    · decide
    · exact hb.path c hc
    · exact hr.path c hc

structure Beside (u : Url) (parts : Parts) : Prop where
  scheme : parts.scheme = u.scheme.toList
  authority : parts.authority = u.authority.toList
  fit : parts.Fit
  plain : parts.Plain

/-- What is merged beside a URL over HTTP, without a place of its own, is put there. -/
theorem merge_beside {base r : Url} {merged : String} (hb : base.Written)
    (http : base.scheme = "http" ∨ base.scheme = "https") (ha : base.authority ≠ "")
    (hr : r.Written) (scheme : r.scheme = "") (authority : r.authority = "")
    (schemeless : ¬NamesScheme r.toText.toList) (single : ¬['/', '/'] <+: r.toText.toList)
    (hm : merge base.toText r.toText = .ok merged) :
    ∃ parts, merged.toList = parts.text ∧ Beside base parts := by
  have hs := http_ne http
  unfold merge at hm
  rw [if_neg (toText_ne hs)] at hm
  split at hm
  · cases hm
    exact ⟨base.parts, Url.toText_toList hs, rfl, rfl,
      parts_fit hb hs fun empty => absurd empty ha, parts_plain hb⟩
  · obtain ⟨b, readBase, hm⟩ := bind_ok hm
    obtain ⟨q, readRef, hm⟩ := bind_ok hm
    cases hm
    obtain ⟨baseScheme, baseAuthority, basePlain⟩ : b.scheme = base.scheme ∧
        b.authority = base.authority.toList ∧ b.Plain := by
      rw [split_base hb http ha] at readBase
      obtain ⟨_, -, readBase⟩ := bind_ok readBase
      cases readBase
      exact ⟨rfl, rfl, plain_url hb _ _⟩
    rw [← baseScheme] at http
    obtain ⟨sameScheme, nowhere, refPlain⟩ :
        q.scheme = b.scheme ∧ q.authority = [] ∧ q.Plain := by
      rw [split_schemeless hr scheme authority schemeless single http] at readRef
      cases readRef
      exact ⟨rfl, rfl, plain_url hr _ _⟩
    obtain ⟨placed, text, scheme, authority, plain⟩ :=
      place_beside r.toText http sameScheme nowhere basePlain refPlain
    rw [baseScheme] at scheme
    rw [baseAuthority] at authority
    have named : placed.authority ≠ [] := by
      rw [authority]
      exact mt String.toList_eq_nil_iff.mp ha
    refine ⟨placed.parts, ?_, congrArg String.toList scheme, authority, ?_, plain_parts plain⟩
    · rw [text]
      exact parts_text (by rwa [scheme]) named
    · refine plain_fit plain ?_ named ?_
      · rw [scheme]
        exact scheme_of_written hb hs
      · rw [authority]
        exact authority_isAuthority hb

end Reference

end LakeAdmin.Url
