import LakeAdmin.Proofs.Url.Join
import Mathlib.Algebra.GroupWithZero.Nat

/-!
Reading does not fail on what was written, as long as no text is too long. A URL that is
read again as it is lends its place to every path that is put there, so a relative path can
always be joined to it, and what comes of that can be read.
-/

namespace LakeAdmin.Url

open Text

/-! ## Texts that can be read -/

theorem readHost_eq {l : List Char} {host : String} (h : encodeHost l = .ok host) :
    readHost l = .ok host := by
  unfold readHost
  rw [h]

theorem unprintable_of_printable {l : List Char} (h : IsPrintable l) : unprintable? l = none := by
  unfold unprintable?
  rw [List.find?_eq_none]
  rintro ⟨c, position⟩ hm
  have inside : c ∈ l := by
    obtain ⟨bound, same⟩ := List.mem_zipIdx' hm
    rw [same]
    exact List.getElem_mem bound
  simp only [Bool.and_eq_true, decide_eq_true_eq, Bool.not_eq_eq_eq_not, Bool.not_true,
    not_and, Bool.not_eq_false]
  exact h c inside

/-- A text that is not too long, and all of whose characters have a visible form, is read
from its parts. -/
theorem parse_eq {s : String} (short : s.length ≤ lengthLimit) (printable : IsPrintable s.toList) :
    parse s = ofParts (cut s.toList) := by
  unfold parse
  rw [if_neg (by omega), unprintable_of_printable printable]

/-- Parts at the place of a URL, with a path from the root, are those of a URL at this
place. -/
theorem ofParts_beside {parts parts' : Parts} {u : Url} (made : FromParts parts u)
    (place : namesPlace u parts = true) (scheme : parts'.scheme = parts.scheme)
    (authority : parts'.authority = parts.authority)
    (rooted : parts'.path = [] ∨ parts'.path.head? = some '/') :
    ∃ v, ofParts parts' = .ok v ∧ v.scheme = u.scheme ∧ v.userInfo = u.userInfo ∧
      v.host = u.host ∧ v.port = u.port := by
  have host := readHost_eq made.host
  have port := made.port
  have user := made.user_eq
  unfold namesPlace at place
  rw [← authority] at host port user place
  rw [← scheme] at port
  unfold ofParts
  generalize cutHost parts'.authority = cuts at host port user place
  obtain ⟨front, name, digits⟩ := cuts
  dsimp only at host port user place ⊢
  have checked : checkPath (!parts'.scheme.isEmpty) true parts'.path = .ok () := by
    unfold checkPath
    rw [if_pos rfl]
    rcases rooted with empty | root
    · rw [empty]
      rfl
    · rw [root]
      simp
  rw [host]
  dsimp only [bind, Except.bind]
  rw [port]
  dsimp only
  rw [place, checked]
  refine ⟨_, rfl, ?_, user.symm, rfl, rfl⟩
  rw [made.scheme_eq, ← scheme]

/-- A URL that is read again from its text as it is, with an authority that a reference may
have. -/
structure IsStable (u : Url) : Prop where
  again : parse u.toText = .ok u
  plain : Reference.checkAuthority u.authority.toList = .ok ()

/-- With another path, a stable URL is read again as it is. -/
theorem parse_withPath {u : Url} {path : List Char} (stable : u.IsStable) (written : u.Written)
    (hs : u.scheme ≠ "") (hh : u.host ≠ "") (chars : ∀ c ∈ path, isPathChar c = true)
    (rooted : path.head? = some '/') (undotted : ∀ s ∈ splitAt '/' path, ¬IsDots s)
    (short : (u.withPath path).toText.length ≤ lengthLimit) :
    parse (u.withPath path).toText = .ok (u.withPath path) := by
  have place := Reference.host_authority hh
  have placed := withPath_written written chars rooted
  have text : (u.withPath path).toText.toList = (u.withPath path).parts.text := toText_toList hs
  have whole : cut (u.withPath path).toText.toList = (u.withPath path).parts := by
    rw [text, cut_text (parts_fit placed hs fun empty => absurd empty place)]
  have printable := toText_printable placed
  obtain ⟨made, -⟩ := parse_ok stable.again
  rw [toText_toList hs, cut_text (parts_fit written hs fun empty => absurd empty place)] at made
  have same : (u.withPath path).parts.path = path := String.toList_ofList
  have root : (u.withPath path).parts.path.head? = some '/' := by rw [same, rooted]
  obtain ⟨v, hv, scheme, user, host, port⟩ :
      ∃ v, ofParts (u.withPath path).parts = .ok v ∧ v.scheme = u.scheme ∧
        v.userInfo = u.userInfo ∧ v.host = u.host ∧ v.port = u.port :=
    ofParts_beside made (authority_namesPlace made place) rfl rfl (.inr root)
  have remade := ofParts_ok hv
  have own : v.path.toList = path := by
    rw [← same]
    exact fromParts_path remade (by rwa [same]) (by rwa [same])
  rw [parse_eq short printable, whole, hv, Except.ok.injEq]
  -- The path is compared last: of the other parts, nothing was changed.
  cases v
  simp only at scheme user host port own
  have query := remade.query_eq
  have fragment := remade.fragment_eq
  simp only at query fragment
  have path_eq := String.toList_inj.mp (own.trans String.toList_ofList.symm)
  rw [scheme, user, host, port, query, fragment, path_eq]
  rfl

/-- A relative path can be read. -/
theorem parse_relative_ok {path : String} (h : IsRelative path)
    (short : path.length ≤ lengthLimit) : ∃ r, parse path = .ok r := by
  have printable : IsPrintable path.toList :=
    printable_of_keep (fun c hc => steady_path (h.chars c hc)) (by decide +kernel)
  have colon : ':' ∉ path.toList := not_mem_of_keep h.chars (by decide)
  have single : ['/', '/'].isPrefixOf path.toList = false := by
    refine Bool.of_not_eq_true fun twice => relative_head h ?_
    obtain ⟨rest, whole⟩ := List.isPrefixOf_iff_prefix.mp twice
    rw [← whole]
    rfl
  have first : path.toList.head? ≠ some ':' := fun head => colon (List.mem_of_mem_head? head)
  have checked : checkPath false false path.toList = .ok () := by
    unfold checkPath
    rw [if_neg Bool.false_ne_true, if_neg Bool.false_ne_true, single, if_neg Bool.false_ne_true,
      if_neg first]
  rw [parse_eq short printable, cut_relative h]
  unfold ofParts
  have host : readHost [] = .ok "" := rfl
  have port : readPort [] [] = .ok none := rfl
  have cuts : cutHost [] = ([], [], []) := rfl
  dsimp only
  rw [cuts]
  dsimp only
  rw [host]
  dsimp only [bind, Except.bind]
  rw [port]
  dsimp only
  have nowhere : (!([] : List Char).isEmpty || ("" ≠ "") || (none : Option Int).isSome) = false := by
    decide
  rw [nowhere, show checkPath (!([] : List Char).isEmpty) false path.toList = .ok () from checked]
  exact ⟨_, rfl⟩

/-! ## Lengths -/

/-- The room that segments take, each with a slash. -/
def room (segments : List (List Char)) : Nat := (segments.map fun s => s.length + 1).sum

theorem room_append (front back : List (List Char)) :
    room (front ++ back) = room front + room back := by
  simp [room]

theorem joinWith_length {segments : List (List Char)} (h : segments ≠ []) :
    (joinWith '/' segments).length + 1 = room segments := by
  induction segments with
  | nil => exact absurd rfl h
  | cons segment rest ih =>
    cases rest with
    | nil => simp [joinWith, room]
    | cons next rest =>
      have later := ih (by simp)
      simp only [joinWith, List.length_append, List.length_cons]
      simp only [room, List.map_cons, List.sum_cons] at later ⊢
      omega

theorem splitAt_room (l : List Char) : room (splitAt '/' l) = l.length + 1 := by
  rw [← joinWith_length (splitAt_ne_nil '/' l), joinWith_splitAt]

theorem dropLast_room (segments : List (List Char)) : room segments.dropLast ≤ room segments := by
  cases hl : segments.getLast? with
  | none =>
    rw [List.getLast?_eq_none_iff] at hl
    rw [hl]
    exact Nat.le_refl _
  | some last =>
    obtain ⟨front, rfl⟩ := List.getLast?_eq_some_iff.mp hl
    rw [List.dropLast_concat, room_append]
    omega

theorem filter_room (p : List Char → Bool) (segments : List (List Char)) :
    room (segments.filter p) ≤ room segments := by
  induction segments with
  | nil => exact Nat.le_refl _
  | cons segment rest ih =>
    rw [List.filter_cons]
    simp only [room, List.map_cons, List.sum_cons] at ih ⊢
    split
    · simp only [List.map_cons, List.sum_cons]
      omega
    · omega

theorem keep_room (segments kept : List (List Char)) :
    room (segments.foldl Reference.keep kept) ≤ room kept + room segments := by
  induction segments generalizing kept with
  | nil => simp [room]
  | cons segment rest ih =>
    have later := ih (Reference.keep kept segment)
    have step : room (Reference.keep kept segment) ≤ room kept + (segment.length + 1) := by
      unfold Reference.keep
      split
      · omega
      · split
        · have := dropLast_room kept
          omega
        · simp [room]
    rw [List.foldl_cons]
    have whole : room (segment :: rest) = (segment.length + 1) + room rest := by simp [room]
    omega

/-- A path that is merged into a folder is hardly longer than both together. -/
theorem mergePath_length {base path : List Char} {inner : List (List Char)}
    (hb : splitAt '/' base = [] :: (inner ++ [[]]))
    (same : splitAt '/' (Reference.mergePath base path) =
      Reference.removeDots ([] :: (inner.filter (!·.isEmpty) ++ splitAt '/' path))) :
    (Reference.mergePath base path).length ≤ base.length + path.length + 1 := by
  have whole := splitAt_room (Reference.mergePath base path)
  have folder := splitAt_room base
  have behind := splitAt_room path
  have fewer := filter_room (!·.isEmpty) inner
  have kept := keep_room ([] :: (inner.filter (!·.isEmpty) ++ splitAt '/' path)) []
  have last : room [[]] = 1 := rfl
  have none : room [] = 0 := rfl
  have cons (rest : List (List Char)) : room ([] :: rest) = 1 + room rest := by simp [room]
  rw [hb, cons, room_append, last] at folder
  rw [cons, room_append, none] at kept
  rw [same, Reference.removeDots_eq] at whole
  split at whole
  · rw [room_append, last] at whole
    omega
  · omega

/-! ## Joined to a root -/

theorem toText_length {u : Url} (hs : u.scheme ≠ "") (ha : u.authority ≠ "") :
    u.scheme.length + u.authority.length + u.path.length + 3 ≤ u.toText.length := by
  have named : u.authority.toList ≠ [] := fun he => ha (String.toList_eq_nil_iff.mp he)
  have text := congrArg List.length (toText_toList hs)
  rw [String.length_toList] at text
  rw [text]
  unfold Parts.text Parts.tail parts
  rw [if_neg (show u.authority.toList ≠ [] from named)]
  simp only [List.length_append, List.length_cons, String.length_toList]
  omega

theorem withPath_length {u : Url} {path : List Char} (hs : u.scheme ≠ "") (ha : u.authority ≠ "") :
    (u.withPath path).toText.length =
      u.scheme.length + u.authority.length + path.length + 3 := by
  have named : u.authority.toList ≠ [] := fun he => ha (String.toList_eq_nil_iff.mp he)
  have text : (u.withPath path).toText.toList = (u.withPath path).parts.text := toText_toList hs
  rw [← String.length_toList, text]
  unfold Parts.text Parts.tail parts
  rw [if_neg (show (u.withPath path).authority.toList ≠ [] from named)]
  unfold withPath
  simp only [List.length_append, List.length_cons, String.length_toList, String.toList_ofList,
    Option.map_none, Option.elim_none, List.length_nil]
  show u.scheme.length + (u.authority.length + 2 + _ + 1) = _
  omega

/-- What a path becomes beside a root: the root with the merged path. -/
def beside (base : Url) (path : String) : Url :=
  base.withPath (Reference.mergePath base.path.toList path.toList)

theorem beside_length {base : Url} {path : String} {inner : List (List Char)}
    (h : base.Written) (root : base.IsRoot) (folder : base.IsFolder inner) (below : IsBelow path) :
    (base.beside path).toText.length ≤ base.toText.length + path.length + 1 := by
  have place := Reference.host_authority root.host
  obtain ⟨-, segments, -⟩ := merged_path h folder below
  have merged := mergePath_length folder.segments segments
  have whole := toText_length root.scheme_ne place
  unfold beside
  rw [withPath_length root.scheme_ne place]
  simp only [String.length_toList] at merged
  omega

/-- A path is joined to a stable root without failure, and what comes of it is read again
as it is. -/
theorem join_ok {base : Url} {path : String} {inner : List (List Char)} (stable : base.IsStable)
    (h : base.Written) (root : base.IsRoot) (folder : base.IsFolder inner) (below : IsBelow path)
    (short : base.toText.length + path.length + 1 ≤ lengthLimit) :
    base.join path = .ok (base.beside path) ∧
      parse (base.beside path).toText = .ok (base.beside path) := by
  obtain ⟨rooted, -, dots, chars⟩ := merged_path h folder below
  have room := beside_length h root folder below
  have again : parse (base.beside path).toText = .ok (base.beside path) :=
    parse_withPath stable h root.scheme_ne root.host chars rooted dots (Nat.le_trans room short)
  obtain ⟨r, hr⟩ := parse_relative_ok below.toIsRelative (by omega)
  have merges := Reference.merge_relative h root below.toIsRelative rooted
  rw [stable.plain] at merges
  refine ⟨?_, again⟩
  unfold join
  rw [hr]
  dsimp only [bind, Except.bind]
  rw [parse_relative below.toIsRelative hr, merges]
  exact again

end LakeAdmin.Url
