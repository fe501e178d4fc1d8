import LakeAdmin.Proofs.Url.Path
import LakeAdmin.Proofs.Url.Reference

/-!
Paths beside a base URL. Where the base URL is the root of a service, its folder and the
path are merged segment by segment, and the URL that comes of it keeps its path when it
is written and read again.
-/

namespace LakeAdmin.Url

open Text

/-- A URL below which a service has its paths: a folder of a host, reached over HTTP. -/
structure IsRoot (u : Url) : Prop where
  scheme : u.scheme = "http" ∨ u.scheme = "https"
  host : u.host ≠ ""
  folder : u.path.toList.getLast? = some '/'

theorem http_ne {scheme : String} (http : scheme = "http" ∨ scheme = "https") : scheme ≠ "" := by
  rcases http with rfl | rfl <;> decide

theorem http_lower {scheme : String} (http : scheme = "http" ∨ scheme = "https") :
    lowerAscii (String.ofList scheme.toList) = scheme := by
  rw [String.ofList_toList, ← String.toList_inj, lowerAscii_toList]
  rcases http with rfl | rfl <;> rfl

/-- References over HTTP may be relative, and have authorities. -/
theorem http_known {scheme : String} (http : scheme = "http" ∨ scheme = "https") :
    Reference.relativeSchemes.contains scheme = true ∧
      Reference.authoritySchemes.contains scheme = true := by
  rcases http with rfl | rfl <;> decide

theorem IsRoot.scheme_ne {u : Url} (root : u.IsRoot) : u.scheme ≠ "" := http_ne root.scheme

/-- Characters of a path that are the same wherever it is read. -/
def isSteadyChar (c : Char) : Bool := Percent.isUnreserved c || c == '%' || c == '/'

/-- A path that is no more than a path, and does not start at the root. -/
structure IsRelative (path : String) : Prop where
  chars : ∀ c ∈ path.toList, isSteadyChar c = true
  first : ∃ c, path.toList.head? = some c ∧ c ≠ '/'

/-- A relative path that can be followed from a folder without leaving the root: no segment
of it is empty, and each dot segment stands behind another one. -/
structure IsBelow (path : String) : Prop extends IsRelative path where
  filled : ∀ s ∈ splitAt '/' path.toList, s ≠ []
  steady : Reference.Steady false (splitAt '/' path.toList)

/-- A URL whose path is a folder with these segments between its slashes. -/
structure IsFolder (u : Url) (inner : List (List Char)) : Prop where
  segments : splitAt '/' u.path.toList = [] :: (inner ++ [[]])
  undotted : ∀ s ∈ inner, ¬IsDots s

theorem steady_path {c : Char} (h : isSteadyChar c = true) : isPathChar c = true := by
  have host : c ≠ '/' → isHostChar c = true := by
    intro hc
    unfold isSteadyChar at h
    simp only [Bool.or_eq_true, beq_iff_eq, hc, or_false] at h
    rcases h with h | rfl
    · simp [isHostChar, h]
    · rfl
  have low : c.toNat < 128 := by
    by_cases hc : c = '/'
    · rw [hc]
      decide
    · exact isHostChar_ascii (host hc)
  exact ascii_cases (p := fun c => isSteadyChar c = true → isPathChar c = true)
    (by decide) low h

/-- The URL with another path, and nothing behind it. -/
def withPath (u : Url) (path : List Char) : Url :=
  { u with path := String.ofList path, query := none, fragment := none }

theorem withPath_written {u : Url} {path : List Char} (h : u.Written)
    (chars : ∀ c ∈ path, isPathChar c = true) (rooted : path.head? = some '/') :
    (u.withPath path).Written where
  scheme := h.scheme
  user := h.user
  host := h.host
  path := by
    unfold withPath
    simpa using chars
  query := by simp [withPath]
  fragment := by simp [withPath]
  rooted := by
    unfold withPath
    simp [rooted]

/-! ## The path by itself -/

theorem relative_ne {path : String} (h : IsRelative path) : path ≠ "" := by
  obtain ⟨first, head, -⟩ := h.first
  rintro rfl
  cases head

theorem relative_head {path : String} (h : IsRelative path) : path.toList.head? ≠ some '/' := by
  obtain ⟨first, head, root⟩ := h.first
  rw [head]
  simpa using root

/-- No part of a relative path names a place. -/
theorem cutAuthority_relative {path : String} (h : IsRelative path) :
    cutAuthority path.toList = (none, path.toList) := by
  refine cutAuthority_none fun prefixed => relative_head h ?_
  obtain ⟨rest, whole⟩ := prefixed
  rw [← whole]
  rfl

/-- No part of a relative path is a scheme. -/
theorem cutScheme?_relative {path : String} (h : IsRelative path) :
    cutScheme? path.toList = none := by
  have colon : ':' ∉ path.toList := not_mem_of_keep h.chars (by decide)
  unfold cutScheme?
  rw [cutFirst_none colon]
  split
  · simp_all
  · rfl

theorem cutFirst_relative {path : String} (h : IsRelative path) :
    cutFirst '#' path.toList = (path.toList, none) ∧
      cutFirst '?' path.toList = (path.toList, none) :=
  ⟨cutFirst_none (not_mem_of_keep h.chars (by decide)),
    cutFirst_none (not_mem_of_keep h.chars (by decide))⟩

theorem cut_relative {path : String} (h : IsRelative path) :
    cut path.toList = ⟨[], [], path.toList, none, none⟩ := by
  have scheme : cutScheme path.toList = ([], path.toList) := by
    have colon : ':' ∉ path.toList := not_mem_of_keep h.chars (by decide)
    unfold cutScheme
    split
    · simp_all
    · rw [cutScheme?_relative h]
      rfl
  obtain ⟨hash, question⟩ := cutFirst_relative h
  unfold cut
  rw [scheme]
  dsimp only
  rw [cutAuthority_relative h]
  dsimp only
  rw [hash]
  dsimp only
  rw [question]
  rfl

/-- A relative path is read as nothing but a path. -/
theorem parse_relative {path : String} {r : Url} (h : IsRelative path) (hp : parse path = .ok r) :
    r.toText = path := by
  obtain ⟨made, -⟩ := parse_ok hp
  rw [cut_relative h] at made
  have scheme : r.scheme = "" := by
    rw [made.scheme_eq]
    simp [lowerAscii]
  have host : r.host = "" := (Except.ok.inj made.host).symm
  have port : r.port = none := (Except.ok.inj made.port).symm
  have user : r.userInfo = "" := made.user_eq
  have query : r.query = none := made.query_eq
  have fragment : r.fragment = none := made.fragment_eq
  have whole : r.path = path := by
    rw [made.path_eq]
    have nowhere : namesPlace r ⟨[], [], path.toList, none, none⟩ = false := by
      unfold namesPlace
      rw [host, port]
      rfl
    rw [nowhere]
    simp only [List.isEmpty_nil, Bool.not_true, Bool.or_false, Bool.false_eq_true, if_false]
    rw [String.ofList_toList]
    exact Percent.encode_eq_self fun c hc => steady_path (h.chars c hc)
  have authority : r.authority = "" := by
    unfold authority
    rw [user, host, port]
    rfl
  unfold toText
  rw [if_pos scheme, if_pos authority, query, fragment, whole]
  simp

/-! ## Both as references -/

namespace Reference

theorem cutParams_folder {path : List Char} (h : path.getLast? = some '/') :
    cutParams path = (path, []) := by
  obtain ⟨front, rfl⟩ := List.getLast?_eq_some_iff.mp h
  unfold cutParams
  rw [cutLast_append front (by simp)]
  rfl

theorem cutParams_plain {path : List Char} (h : ';' ∉ path) : cutParams path = (path, []) := by
  unfold cutParams
  rcases cutLast_cases '/' path with ⟨-, cut⟩ | ⟨front, last, -, whole, cut⟩
  · rw [cut, cutFirst_none h]
    rfl
  · have plain : ';' ∉ last := fun hm => h (by simp [whole, hm])
    rw [cut]
    dsimp only
    rw [cutFirst_none plain, whole]
    rfl

/-- The parts of a URL over HTTP as a base, if its authority may stand in a reference. -/
theorem split_base {u : Url} (h : u.Written) (http : u.scheme = "http" ∨ u.scheme = "https")
    (ha : u.authority ≠ "") :
    split "" u.toText = (checkAuthority u.authority.toList).bind fun _ =>
      .ok ⟨u.scheme, u.authority.toList, (cutParams u.path.toList).1,
        (cutParams u.path.toList).2, u.parts.query.getD [], u.parts.fragment.getD []⟩ := by
  have hs := http_ne http
  have params : paramsSchemes.contains u.scheme = true := by
    rcases http with same | same <;> rw [same] <;> decide
  have fit := parts_fit h hs fun empty => absurd empty ha
  obtain ⟨found, authority, same⟩ := cutAuthority_text fit
  obtain ⟨front, fragment, query⟩ := cut_tail fit.path fit.query
  have lower : lowerAscii (String.ofList u.parts.scheme) = u.scheme := http_lower http
  have cleaned : clean u.parts.text = u.parts.text :=
    clean_scheme fit.scheme (text_printable h hs)
  have scheme : cutScheme? u.parts.text = some (u.parts.scheme, _) :=
    cutScheme?_append fit.scheme _
  unfold split
  rw [Url.toText_toList hs, cleaned]
  dsimp only
  rw [scheme]
  dsimp only
  rw [authority]
  dsimp only
  rw [fragment, same]
  dsimp only
  rw [query]
  dsimp only
  simp only [lower, params, if_true]
  rfl

/-- The parts of a root as a base have no parameters. -/
theorem split_root {u : Url} (h : u.Written) (root : u.IsRoot) :
    split "" u.toText = (checkAuthority u.authority.toList).bind fun _ =>
      .ok ⟨u.scheme, u.authority.toList, u.path.toList, [], u.parts.query.getD [],
        u.parts.fragment.getD []⟩ := by
  rw [split_base h root.scheme (host_authority root.host), cutParams_folder root.folder]

/-- The parts of a relative path. -/
theorem split_relative {path : String} (h : IsRelative path) (usual : String) :
    split usual path = .ok ⟨usual, [], path.toList, [], [], []⟩ := by
  obtain ⟨hash, question⟩ := cutFirst_relative h
  have cleaned : clean path.toList = path.toList := by
    refine clean_printable
      (printable_of_keep (fun c hc => steady_path (h.chars c hc)) (by decide +kernel)) ?_
    intro c hc
    have visible : isPathChar c = true := steady_path (h.chars c (List.mem_of_mem_head? hc))
    simp only [isPathChar, isQueryChar, isVisible, Bool.and_eq_true, decide_eq_true_eq] at visible
    obtain ⟨⟨⟨low, -⟩, others⟩, -⟩ := visible
    refine Nat.lt_of_le_of_ne low fun same => ?_
    have blank : c = ' ' := by
      rw [← Char.ofNat_toNat c, ← same]
    rw [blank] at others
    revert others
    decide
  have params : cutParams path.toList = (path.toList, []) :=
    cutParams_plain (not_mem_of_keep h.chars (by decide))
  unfold split
  rw [cleaned]
  dsimp only
  rw [cutScheme?_relative h]
  dsimp only
  rw [cutAuthority_relative h]
  dsimp only
  rw [hash]
  dsimp only
  rw [question]
  dsimp only
  rw [params, ite_self]
  rfl

/-- A reference with nothing but a place and a path from the root is written as a URL at
this place. -/
theorem toText_withPath {u : Url} {path : List Char} (hs : u.scheme ≠ "") (ha : u.authority ≠ "")
    (rooted : path.head? = some '/') :
    toText ⟨u.scheme, u.authority.toList, path, [], [], []⟩ = (u.withPath path).toText := by
  have named : u.authority.toList ≠ [] := fun he => ha (String.toList_eq_nil_iff.mp he)
  have text : (u.withPath path).toText.toList = (u.withPath path).parts.text :=
    Url.toText_toList hs
  have parts : (u.withPath path).parts =
      ⟨u.scheme.toList, u.authority.toList, path, none, none⟩ := by
    unfold Url.parts withPath
    rw [String.toList_ofList]
    rfl
  rw [← String.toList_inj, toText_toList hs named, text, parts]
  unfold Parts.text Parts.tail Reference.tail
  dsimp only
  rw [if_neg named]
  simp [rooted]

/-- Beside a root, only the paths are merged. -/
theorem merge_relative {u : Url} {path : String} (h : u.Written) (root : u.IsRoot)
    (relative : IsRelative path)
    (rooted : (mergePath u.path.toList path.toList).head? = some '/') :
    merge u.toText path = (checkAuthority u.authority.toList).bind fun _ =>
      .ok (u.withPath (mergePath u.path.toList path.toList)).toText := by
  have known := http_known root.scheme
  unfold merge
  rw [if_neg (toText_ne root.scheme_ne), if_neg (relative_ne relative), split_root h root]
  cases checkAuthority u.authority.toList with
  | error fault => rfl
  | ok _ =>
    dsimp only [bind, Except.bind]
    rw [split_relative relative]
    dsimp only
    unfold place
    rw [if_neg (by simpa using known.1)]
    dsimp only
    rw [known.2]
    rw [if_neg (by simp), if_pos rfl]
    dsimp only
    rw [if_neg (by simpa using relative_ne relative),
      toText_withPath root.scheme_ne (host_authority root.host) rooted]
    rfl

theorem mem_removeDots {segments : List (List Char)} {segment : List Char}
    (h : segment ∈ removeDots segments) :
    segment = [] ∨ (segment ∈ segments ∧ ¬IsDots segment) := by
  have kept (hm : segment ∈ segments.foldl keep []) : segment ∈ segments ∧ ¬IsDots segment :=
    (mem_keep hm).resolve_left (by simp)
  rw [removeDots_eq] at h
  split at h
  · rcases List.mem_append.mp h with hm | hm
    · exact .inr (kept hm)
    · exact .inl (List.mem_singleton.mp hm)
  · exact .inr (kept h)

/-- A path beside a folder, in its segments, has a root and more. -/
theorem mergePath_folder {base path : List Char} {inner : List (List Char)}
    (hb : splitAt '/' base = [] :: (inner ++ [[]])) (undotted : ∀ s ∈ inner, ¬IsDots s)
    (relative : path.head? ≠ some '/') (filled : ∀ s ∈ splitAt '/' path, s ≠ [])
    (steady : Steady false (splitAt '/' path)) :
    (mergePath base path).head? = some '/' ∧
      splitAt '/' (mergePath base path) =
        removeDots ([] :: (inner.filter (!·.isEmpty) ++ splitAt '/' path)) := by
  have front : ∀ s ∈ inner.filter (!·.isEmpty), ¬IsDots s := fun s hs =>
    undotted s (List.mem_filter.mp hs).1
  obtain ⟨others, kept, some⟩ :=
    removeDots_rooted front steady (splitAt_ne_nil '/' path) filled
  have inside : ∀ s ∈ ([] :: others : List (List Char)), '/' ∉ s := by
    intro s hs
    rw [← kept] at hs
    rcases mem_removeDots hs with rfl | ⟨hm, -⟩
    · simp
    · rcases List.mem_cons.mp hm with rfl | hm
      · simp
      · rcases List.mem_append.mp hm with hm | hm
        · refine not_mem_splitAt (l := base) ?_
          rw [hb]
          simp [(List.mem_filter.mp hm).1]
        · exact not_mem_splitAt hm
  have root : joinWith '/' ([] :: others) = '/' :: joinWith '/' others := by
    cases others with
    | nil => exact absurd rfl some
    | cons next rest => rfl
  have merged : mergePath base path = joinWith '/' ([] :: others) := by
    unfold mergePath
    rw [mergeSegments_folder hb relative filled, kept]
    dsimp only
    rw [root]
    rfl
  refine ⟨?_, ?_⟩
  · rw [merged, root]
    rfl
  · rw [merged, splitAt_joinWith (by simp) inside, kept]

end Reference

/-! ## Joined and read again -/

theorem fromParts_path {parts : Parts} {u : Url} (made : FromParts parts u)
    (chars : ∀ c ∈ parts.path, isPathChar c = true)
    (undotted : ∀ s ∈ splitAt '/' parts.path, ¬IsDots s) : u.path.toList = parts.path := by
  rw [made.path_eq, removeDots_self undotted, ite_self,
    Percent.encode_eq_self (by simpa using chars), String.toList_ofList]

/-- No dot segment is left in the path of a URL with a scheme. -/
theorem parse_undotted {s : String} {u : Url} (h : parse s = .ok u) (hs : u.scheme ≠ "") :
    ∀ segment ∈ splitAt '/' u.path.toList, ¬IsDots segment := by
  obtain ⟨made, -⟩ := parse_ok h
  have scheme : (cut s.toList).scheme.isEmpty = false := by
    refine Bool.of_not_eq_true fun none => hs ?_
    rw [made.scheme_eq, List.isEmpty_iff.mp none]
    simp [lowerAscii]
  rw [made.path_eq, scheme, Bool.not_false, Bool.true_or, if_pos rfl,
    Percent.splitAt_encode (by decide), String.toList_ofList]
  intro segment hm dots
  obtain ⟨part, hp, rfl⟩ := List.mem_map.mp hm
  have same : Percent.encode isPathChar (String.ofList part) = String.ofList part := by
    refine Percent.encode_unmarked ?_
    rcases dots with dot | dot <;> rw [dot] <;> decide
  rw [same, String.toList_ofList] at dots
  exact removeDots_undotted _ _ hp dots

/-- A URL without dot segments that is read again has its path, and a scheme and a host. -/
theorem parse_again {w v : Url} (h : w.Written) (hs : w.scheme ≠ "") (hh : w.host ≠ "")
    (undotted : ∀ s ∈ splitAt '/' w.path.toList, ¬IsDots s) (hv : parse w.toText = .ok v) :
    v.path = w.path ∧ v.scheme ≠ "" ∧ v.host ≠ "" := by
  have place := Reference.host_authority hh
  obtain ⟨host, scheme⟩ := Reference.parse_host h (Reference.url_places h hs place) hv
  obtain ⟨made, -⟩ := parse_ok hv
  rw [toText_toList hs, cut_text (parts_fit h hs fun empty => absurd empty place)] at made
  refine ⟨String.toList_inj.mp (fromParts_path made h.path undotted), scheme, ?_⟩
  rcases host with same | same <;> rw [same]
  · exact hh
  · exact Reference.lowerAscii_ne hh

/-- A root that was read is a folder. -/
theorem root_folder {s : String} {u : Url} (h : parse s = .ok u) (root : u.IsRoot) :
    ∃ inner, u.IsFolder inner := by
  have rooted : u.path.toList.head? = some '/' := by
    have place := Reference.host_authority root.host
    refine ((parse_written h).rooted place).resolve_left fun empty => ?_
    have folder := root.folder
    rw [empty] at folder
    cases folder
  obtain ⟨inner, segments⟩ := Reference.splitAt_folder rooted root.folder
  refine ⟨inner, segments, fun s hs => parse_undotted h root.scheme_ne s ?_⟩
  rw [segments]
  simp [hs]

/-- What the merged path is, and that it is read as it is. -/
theorem merged_path {base : Url} {path : String} {inner : List (List Char)} (h : base.Written)
    (folder : base.IsFolder inner) (below : IsBelow path) :
    (Reference.mergePath base.path.toList path.toList).head? = some '/' ∧
      splitAt '/' (Reference.mergePath base.path.toList path.toList) =
        Reference.removeDots ([] :: (inner.filter (!·.isEmpty) ++ splitAt '/' path.toList)) ∧
      (∀ s ∈ splitAt '/' (Reference.mergePath base.path.toList path.toList), ¬IsDots s) ∧
      ∀ c ∈ Reference.mergePath base.path.toList path.toList, isPathChar c = true := by
  obtain ⟨rooted, segments⟩ := Reference.mergePath_folder folder.segments folder.undotted
    (relative_head below.toIsRelative) below.filled below.steady
  refine ⟨rooted, segments, fun s hs => ?_, fun c hc => ?_⟩
  · rw [segments] at hs
    rcases Reference.mem_removeDots hs with rfl | ⟨-, none⟩
    · exact not_isDots_nil
    · exact none
  · rw [← joinWith_splitAt '/' (Reference.mergePath _ _), segments] at hc
    rcases mem_joinWith hc with rfl | ⟨s, hs, hc⟩
    · decide
    · rcases Reference.mem_removeDots hs with rfl | ⟨hm, -⟩
      · cases hc
      · rcases List.mem_cons.mp hm with rfl | hm
        · cases hc
        · rcases List.mem_append.mp hm with hm | hm
          · have inside : s ∈ splitAt '/' base.path.toList := by
              rw [folder.segments]
              simp [(List.mem_filter.mp hm).1]
            exact h.path c (mem_of_mem_splitAt inside hc)
          · exact steady_path (below.chars c (mem_of_mem_splitAt hm hc))

/-- Joined to a root, a path follows the segments of the root that are not empty, and dot
segments are followed. -/
theorem join_segments {base w : Url} {path : String} {inner : List (List Char)}
    (h : base.Written) (root : base.IsRoot) (folder : base.IsFolder inner) (below : IsBelow path)
    (hj : base.join path = .ok w) :
    splitAt '/' w.path.toList =
        Reference.removeDots ([] :: (inner.filter (!·.isEmpty) ++ splitAt '/' path.toList)) ∧
      w.scheme ≠ "" ∧ w.host ≠ "" ∧ ∀ s ∈ splitAt '/' w.path.toList, ¬IsDots s := by
  obtain ⟨rooted, segments, dots, chars⟩ := merged_path h folder below
  unfold join at hj
  obtain ⟨r, hr, hj⟩ := bind_ok hj
  rw [parse_relative below.toIsRelative hr] at hj
  obtain ⟨merged, hm, hw⟩ := bind_ok hj
  have merges := mapError_ok hm
  rw [Reference.merge_relative h root below.toIsRelative rooted] at merges
  obtain ⟨_, -, merges⟩ := bind_ok merges
  cases merges
  obtain ⟨same, scheme, host⟩ := parse_again (withPath_written h chars rooted) root.scheme_ne
    root.host (by simpa [withPath] using dots) hw
  have path : w.path.toList = Reference.mergePath base.path.toList path.toList := by
    rw [same]
    simp [withPath]
  rw [path]
  exact ⟨segments, scheme, host, dots⟩

end LakeAdmin.Url
