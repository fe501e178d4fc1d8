import LakeAdmin.Proofs.Url.Cut
import LakeAdmin.Proofs.Url.Path

/-!
Reading URLs. `FromParts` says how each part of a URL comes from the text it is read
from, and `Written` what reading leaves in it, whatever the text was.
-/

namespace LakeAdmin.Url

open Text

/-! ## What reading leaves -/

/-- An IPv6 host: what stood between brackets, and is read from there again. -/
structure Bracketed (host : String) : Prop where
  colon : ':' ∈ host.toList
  outside : ∀ c ∈ host.toList, c ≠ '@' ∧ endsAuthority c = false
  printable : IsPrintable host.toList
  again : encodeHost ('[' :: (host.toList ++ [']'])) = .ok host

/-- What reading leaves in the parts of a URL. -/
structure Written (u : Url) : Prop where
  scheme : u.scheme = "" ∨ IsScheme u.scheme.toList
  user : ∀ c ∈ u.userInfo.toList, isUserChar c = true
  host : (∀ c ∈ u.host.toList, isHostChar c = true) ∨ Bracketed u.host
  path : ∀ c ∈ u.path.toList, isPathChar c = true
  query : ∀ query ∈ u.query, ∀ c ∈ query.toList, isQueryChar c = true
  fragment : ∀ fragment ∈ u.fragment, ∀ c ∈ fragment.toList, isFragmentChar c = true
  rooted : u.authority ≠ "" → u.path = "" ∨ u.path.toList.head? = some '/'

/-- The host between the user information and the port. -/
theorem cutHost_host (authority : List Char) :
    ∀ c ∈ (cutHost authority).2.1, c ∈ authority ∧ c ≠ '@' := by
  have place : ∀ c ∈ ((cutLast? '@' authority).getD ([], authority)).2,
      c ∈ authority ∧ c ≠ '@' := by
    intro c hc
    rcases cutLast_cases '@' authority with ⟨none, cut⟩ | ⟨before, after, none, whole, cut⟩
    · rw [cut] at hc
      exact ⟨hc, fun he => none (he ▸ hc)⟩
    · rw [cut] at hc
      refine ⟨?_, fun he => none (he ▸ hc)⟩
      rw [whole]
      exact List.mem_append_right _ (List.mem_cons_of_mem _ hc)
  unfold cutHost
  generalize (cutLast? '@' authority).getD ([], authority) = split at place
  obtain ⟨user, place'⟩ := split
  dsimp only at place ⊢
  intro c hc
  refine place c ?_
  split at hc
  · rename_i inside after first last
    rcases cutLast_cases ']' place' with ⟨-, cut⟩ | ⟨before, behind, -, whole, cut⟩
    · rw [cut] at last
      cases last
    · rw [cut] at last
      cases last
      rw [whole]
      rcases List.mem_append.mp hc with hc | hc
      · exact List.mem_append_left _ hc
      · rw [List.mem_singleton] at hc
        simp [hc]
  · exact List.takeWhile_subset _ hc

theorem readHost_ok {l : List Char} {host : String} (h : readHost l = .ok host) :
    encodeHost l = .ok host := by
  unfold readHost at h
  split at h
  · cases h
    assumption
  all_goals cases h

/-- Whether an authority says anything. -/
def namesPlace (u : Url) (parts : Parts) : Bool :=
  !(cutHost parts.authority).1.isEmpty || u.host ≠ "" || u.port.isSome

/-- What the parts of a URL are made from. -/
structure FromParts (parts : Parts) (u : Url) : Prop where
  host : encodeHost (cutHost parts.authority).2.1 = .ok u.host
  port : readPort parts.scheme (cutHost parts.authority).2.2 = .ok u.port
  checked : checkPath (!parts.scheme.isEmpty) (namesPlace u parts) parts.path = .ok ()
  scheme_eq : u.scheme = lowerAscii (String.ofList parts.scheme)
  user_eq : u.userInfo =
    Percent.encode isUserChar (String.ofList (cutHost parts.authority).1)
  path_eq : u.path = Percent.encode isPathChar (String.ofList
    (if !parts.scheme.isEmpty || namesPlace u parts then removeDots parts.path else parts.path))
  query_eq : u.query = parts.query.map fun q => Percent.encode isQueryChar (String.ofList q)
  fragment_eq : u.fragment =
    parts.fragment.map fun f => Percent.encode isFragmentChar (String.ofList f)

theorem ofParts_ok {parts : Parts} {u : Url} (h : ofParts parts = .ok u) : FromParts parts u := by
  unfold ofParts at h
  generalize hc : cutHost parts.authority = authority at h
  obtain ⟨user, host, portText⟩ := authority
  dsimp only at h
  obtain ⟨host', hh, h⟩ := bind_ok h
  obtain ⟨port, hp, h⟩ := bind_ok h
  obtain ⟨_, checked, h⟩ := bind_ok h
  cases h
  constructor
  · rw [hc]
    exact readHost_ok hh
  · rw [hc]
    exact hp
  · unfold namesPlace
    rw [hc]
    exact checked
  · rfl
  · rw [hc]
  · unfold namesPlace
    rw [hc]
  · rfl
  · rfl

theorem encode_keeps {keep : Char → Bool}
    (triple : ∀ n < 128, Percent.isTripleChar (Char.ofNat n) = true → keep (Char.ofNat n) = true)
    (s : String) : ∀ c ∈ (Percent.encode keep s).toList, keep c = true := by
  intro c hc
  rcases Percent.mem_encode hc with ⟨kept, -⟩ | h
  · exact kept
  · exact ascii_cases (p := fun c => Percent.isTripleChar c = true → keep c = true) triple
      (tripleChar_ascii h) h

theorem isScheme_lowerAscii {l : List Char} (h : IsScheme l) :
    IsScheme (lowerAscii (String.ofList l)).toList := by
  have alpha (c : Char) (h : c.isAlpha = true) : c.toLower.isAlpha = true := by
    by_cases low : c.toNat < 128
    · exact ascii_cases (p := fun c => c.isAlpha = true → c.toLower.isAlpha = true)
        (by decide) low h
    · rwa [toLower_nonascii (by omega)]
  have char (c : Char) (h : isSchemeChar c = true) : isSchemeChar c.toLower = true := by
    by_cases low : c.toNat < 128
    · exact ascii_cases (p := fun c => isSchemeChar c = true → isSchemeChar c.toLower = true)
        (by decide) low h
    · rwa [toLower_nonascii (by omega)]
  rw [lowerAscii_toList, String.toList_ofList]
  cases h with
  | @mk first others letter chars =>
    refine .mk (alpha first letter) ?_
    simp only [List.all_eq_true] at chars ⊢
    intro c hc
    obtain ⟨d, hd, rfl⟩ := List.mem_map.mp hc
    exact char d (chars d hd)

theorem lowerScheme_ne {l : List Char} (h : IsScheme l) : lowerAscii (String.ofList l) ≠ "" :=
  isScheme_ne (isScheme_lowerAscii h)

theorem host_written {l : List Char} {host : String} (h : encodeHost l = .ok host)
    (outside : ∀ c ∈ l, c ≠ '@' ∧ endsAuthority c = false) (printable : IsPrintable l) :
    (∀ c ∈ host.toList, isHostChar c = true) ∨ Bracketed host := by
  rcases encodeHost_cases h with plain | ⟨rfl, colon⟩
  · exact .inl plain
  · exact .inr ⟨colon, fun c hc => outside c (by simp [hc]),
      fun c hc => printable c (by simp [hc]), h⟩

theorem encode_root {keep : Char → Bool} (root : keep '/' = true) {l : List Char}
    (h : l = [] ∨ l.head? = some '/') :
    Percent.encode keep (String.ofList l) = "" ∨
      (Percent.encode keep (String.ofList l)).toList.head? = some '/' := by
  rcases h with rfl | first
  · exact .inl rfl
  · cases l with
    | nil => cases first
    | cons c rest =>
      cases first
      right
      simp [Percent.encode, Percent.encodeChar, root]

theorem authority_namesPlace {u : Url} {parts : Parts} (from_parts : FromParts parts u)
    (h : u.authority ≠ "") : namesPlace u parts = true := by
  refine Bool.of_not_eq_false fun none => h ?_
  simp only [namesPlace, Bool.or_eq_false_iff, Bool.not_eq_eq_eq_not, Bool.not_false,
    decide_eq_false_iff_not, ne_eq, Decidable.not_not, Option.isSome_eq_false_iff, Option.isNone_iff_eq_none]
    at none
  obtain ⟨⟨user, host⟩, port⟩ := none
  have userInfo : u.userInfo = "" := by
    rw [from_parts.user_eq, List.isEmpty_iff.mp user]
    rfl
  unfold authority
  rw [userInfo, host, port]
  rfl

/-- What is made from parts is written. -/
theorem fromParts_written {parts : Parts} {u : Url} (h : FromParts parts u)
    (scheme : parts.scheme = [] ∨ IsScheme parts.scheme) (authority : IsAuthority parts.authority)
    (printable : IsPrintable parts.authority) : u.Written := by
  constructor
  · rw [h.scheme_eq]
    rcases scheme with none | valid
    · rw [none]
      exact .inl (by simp [lowerAscii])
    · exact .inr (isScheme_lowerAscii valid)
  · rw [h.user_eq]
    exact encode_keeps (by decide) _
  · refine host_written h.host (fun c hc => ?_) fun c hc => ?_
    · obtain ⟨inside, outside⟩ := cutHost_host _ c hc
      exact ⟨outside, authority c inside⟩
    · exact printable c (cutHost_host _ c hc).1
  · rw [h.path_eq]
    exact encode_keeps (by decide) _
  · rw [h.query_eq]
    rintro query hq
    obtain ⟨q, -, rfl⟩ := Option.map_eq_some_iff.mp hq
    exact encode_keeps (by decide) _
  · rw [h.fragment_eq]
    rintro fragment hf
    obtain ⟨f, -, rfl⟩ := Option.map_eq_some_iff.mp hf
    exact encode_keeps (by decide) _
  · intro place
    have named := authority_namesPlace h place
    have checked := h.checked
    rw [h.path_eq, named, Bool.or_true, if_pos rfl]
    refine encode_root (by decide) (removeDots_rooted ?_)
    unfold checkPath at checked
    rw [named, if_pos rfl] at checked
    split at checked
    · rename_i root
      simpa using root
    · cases checked

theorem unprintable_none {l : List Char} (h : unprintable? l = none) : IsPrintable l := by
  intro c hc low
  obtain ⟨index, bound, rfl⟩ := List.getElem_of_mem hc
  have all := List.find?_eq_none.mp h (l[index], index)
    (List.mem_zipIdx_iff_getElem?.mpr (List.getElem?_eq_getElem bound))
  simpa [low] using all

/-- What a URL is read from. -/
theorem parse_ok {s : String} {u : Url} (h : parse s = .ok u) :
    FromParts (cut s.toList) u ∧
      ((cut s.toList).scheme = [] ∨ IsScheme (cut s.toList).scheme) ∧
      IsAuthority (cut s.toList).authority ∧ IsPrintable s.toList := by
  unfold parse at h
  split at h
  · cases h
  · split at h
    · cases h
    · rename_i printable
      refine ⟨ofParts_ok h, ?_, ?_, unprintable_none printable⟩
      · unfold cut
        rcases cutScheme_cases s.toList with ⟨valid, -⟩ | ⟨none, -⟩
        · exact .inr valid
        · exact .inl none
      · unfold cut
        exact cutAuthority_authority _

/-- What reading leaves is written. -/
theorem parse_written {s : String} {u : Url} (h : parse s = .ok u) : u.Written := by
  obtain ⟨made, scheme, authority, printable⟩ := parse_ok h
  refine fromParts_written made scheme authority fun c hc => printable c ?_
  exact cutScheme_subset _ (cutAuthority_subset _ hc)

/-- A URL whose text ends in a slash, without a query or a fragment, has a folder as its
path. -/
theorem parse_folder {s : String} {u : Url} (h : parse s = .ok u)
    (slash : s.toList.getLast? = some '/') (scheme : u.scheme ≠ "") (host : u.host ≠ "")
    (query : u.query = none) (fragment : u.fragment = none) :
    u.path.toList.getLast? = some '/' := by
  obtain ⟨made, -, authority, -⟩ := parse_ok h
  have named : (cut s.toList).authority ≠ [] := by
    intro empty
    have read := made.host
    rw [empty] at read
    exact host (Except.ok.inj read).symm
  have queryless : (cut s.toList).query = none := by
    rw [made.query_eq] at query
    exact Option.map_eq_none_iff.mp query
  have unmarked : (cut s.toList).fragment = none := by
    rw [made.fragment_eq] at fragment
    exact Option.map_eq_none_iff.mp fragment
  obtain ⟨front, whole⟩ := cut_whole queryless unmarked
  have folder : (cut s.toList).path.getLast? = some '/' := by
    rw [whole, List.getLast?_append, List.getLast?_append] at slash
    cases hp : (cut s.toList).path.getLast? with
    | some last =>
      rw [hp] at slash
      exact slash
    | none =>
      rw [hp] at slash
      cases ha : (cut s.toList).authority.getLast? with
      | none => exact absurd (List.getLast?_eq_none_iff.mp ha) named
      | some last =>
        rw [ha] at slash
        cases slash
        exact absurd (authority '/' (List.mem_of_getLast? ha)) (by decide)
  have root : (cut s.toList).path.head? = some '/' := by
    have place : namesPlace u (cut s.toList) = true := by simp [namesPlace, host]
    have checked := made.checked
    unfold checkPath at checked
    rw [place, if_pos rfl] at checked
    split at checked
    · rename_i root
      rcases Bool.or_eq_true_iff.mp root with empty | root
      · rw [List.isEmpty_iff.mp empty] at folder
        cases folder
      · simpa using root
    · cases checked
  have hasScheme : (cut s.toList).scheme.isEmpty = false := by
    refine Bool.of_not_eq_true fun none => scheme ?_
    rw [made.scheme_eq, List.isEmpty_iff.mp none]
    simp [lowerAscii]
  obtain ⟨front, last⟩ := List.getLast?_eq_some_iff.mp (removeDots_folder root folder)
  have slash : Percent.encodeChar isPathChar '/' = ['/'] := by decide
  rw [made.path_eq, hasScheme, Bool.not_false, Bool.true_or, if_pos rfl, last]
  unfold Percent.encode
  rw [String.toList_ofList, String.toList_ofList, List.flatMap_append]
  simp [slash]

end LakeAdmin.Url
