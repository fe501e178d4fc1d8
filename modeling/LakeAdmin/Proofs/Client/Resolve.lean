import LakeAdmin.Client.Basic
import LakeAdmin.Proofs.Url.Join

/-!
Where a reference leads. What is absolute is taken as it is, all else is joined to the
base URL; the URL of a request is then read from the text of the address.
-/

namespace LakeAdmin

open Http Text Url

/-- Whatever a client is made from, a base URL that names a host, and has neither a query
nor a fragment, is the root of a service. -/
theorem ofOptions_root {settings : Settings} {options : ClientOptions} {base : Url}
    (h : Url.parse (Client.ofOptions settings options).baseUrl = .ok base)
    (scheme : base.scheme = "http" ∨ base.scheme = "https") (host : base.host ≠ "")
    (query : base.query = none) (fragment : base.fragment = none) : base.IsRoot where
  scheme := scheme
  host := host
  folder := by
    have named : base.scheme ≠ "" := by
      rcases scheme with same | same <;> rw [same] <;> decide
    refine parse_folder h ?_ named host query fragment
    unfold Client.ofOptions Settings.endInSlash
    rw [String.toList_append]
    exact List.getLast?_concat

theorem resolve_absolute {client : Client} {address : String}
    (absolute : Reference.isAbsolute address = true) : client.resolve address = .ok address := by
  unfold Client.resolve
  rw [if_pos absolute]

/-- The two ways a reference is resolved. -/
theorem resolve_ok {client : Client} {reference address : String}
    (h : client.resolve reference = .ok address) :
    (Reference.isAbsolute reference = true ∧ address = reference) ∨
      (Reference.isAbsolute reference = false ∧ ∃ base url,
        Url.parse client.baseUrl = .ok base ∧
          base.join (dropLeading (· = '/') reference) = .ok url ∧ address = url.toText) := by
  unfold Client.resolve at h
  cases habs : Reference.isAbsolute reference with
  | true =>
    rw [habs, if_pos rfl] at h
    cases h
    exact .inl ⟨rfl, rfl⟩
  | false =>
    rw [habs, if_neg Bool.false_ne_true] at h
    obtain ⟨base, hb, h⟩ := bind_ok h
    obtain ⟨url, hu, h⟩ := bind_ok h
    cases h
    exact .inr ⟨rfl, base, url, hb, hu, rfl⟩

theorem checkLengths_ok {url checked : Url} (h : url.checkLengths = .ok checked) :
    checked = url := by
  unfold Url.checkLengths at h
  split at h
  · cases h
  · exact (Except.ok.inj h).symm

theorem withQuery_ok {url asked : Url} {query : String} (h : url.withQuery query = .ok asked) :
    asked = { url with query := some query } := checkLengths_ok h

theorem onlyTarget_ok {url bare : Url} (h : url.onlyTarget = .ok bare) :
    bare.scheme = "" ∧ bare.userInfo = "" ∧ bare.host = "" := by
  unfold Url.onlyTarget at h
  cases checkLengths_ok h
  exact ⟨rfl, rfl, rfl⟩

/-- The URL of a request: that of its address but for the query, or a bare path if there
is no scheme or no host. -/
theorem requestUrl_ok {address : String} {params : Option (List (String × String))} {url : Url}
    (h : requestUrl address params = .ok url) :
    ∃ u, Url.parse address = .ok u ∧
      ((u.isAbsolute = true ∧ url = { u with query := url.query }) ∨
        (u.isAbsolute = false ∧ url.scheme = "" ∧ url.userInfo = "" ∧ url.host = "")) := by
  have asked {u : Url} (h : params.elim (.ok u) (fun pairs => u.withQuery (Form.encode pairs)) =
      .ok url) : url = { u with query := url.query } := by
    cases params with
    | none =>
      cases h
      rfl
    | some pairs => rw [withQuery_ok h]
  unfold requestUrl at h
  obtain ⟨u, hu, h⟩ := bind_ok h
  refine ⟨u, hu, ?_⟩
  dsimp only at h
  cases habs : u.isAbsolute with
  | true =>
    rw [habs, if_pos rfl] at h
    refine .inl ⟨rfl, asked ?_⟩
    cases params <;> exact h
  | false =>
    rw [habs, if_neg Bool.false_ne_true] at h
    obtain ⟨bare, hs, h⟩ := bind_ok h
    obtain ⟨scheme, user, host⟩ := onlyTarget_ok hs
    have same : url = { bare with query := url.query } := by
      refine asked ?_
      cases params <;> exact h
    rw [same]
    exact .inr ⟨rfl, scheme, user, host⟩

/-! ## Paths -/

theorem dropLeading_relative {path : String} (h : IsRelative path) :
    dropLeading (· = '/') path = path := by
  obtain ⟨first, head, root⟩ := h.first
  unfold dropLeading
  cases hl : path.toList with
  | nil =>
    rw [hl] at head
    cases head
  | cons c rest =>
    rw [hl] at head
    cases head
    rw [List.dropWhile_cons_of_neg (by simpa using root), ← hl, String.ofList_toList]

theorem isAbsolute_relative {path : String} (h : IsRelative path) :
    Reference.isAbsolute path = false := by
  unfold Reference.isAbsolute
  rw [Reference.split_relative h]
  rfl

/-- The path of a request for a relative path beside a root, in its segments. -/
theorem request_segments {client : Client} {base url : Url} {path address : String}
    {params : Option (List (String × String))} {inner : List (List Char)}
    (hb : Url.parse client.baseUrl = .ok base) (root : base.IsRoot)
    (folder : base.IsFolder inner) (below : IsBelow path)
    (ha : client.resolve path = .ok address) (hu : requestUrl address params = .ok url) :
    splitAt '/' url.path.toList =
      Reference.removeDots ([] :: (inner.filter (!·.isEmpty) ++ splitAt '/' path.toList)) := by
  rcases resolve_ok ha with ⟨absolute, -⟩ | ⟨-, base', joined, hb', hj, rfl⟩
  · rw [isAbsolute_relative below.toIsRelative] at absolute
    cases absolute
  · cases hb.symm.trans hb'
    rw [dropLeading_relative below.toIsRelative] at hj
    obtain ⟨segments, scheme, host, dots⟩ :=
      join_segments (parse_written hb) root folder below hj
    obtain ⟨u, hp, cases⟩ := requestUrl_ok hu
    have written : joined.Written := by
      unfold Url.join at hj
      obtain ⟨_, -, hj⟩ := bind_ok hj
      obtain ⟨_, -, hj⟩ := bind_ok hj
      exact parse_written hj
    obtain ⟨same, scheme', host'⟩ := parse_again written scheme host dots hp
    have absolute : u.isAbsolute = true := by simp [Url.isAbsolute, scheme', host']
    rcases cases with ⟨-, whole⟩ | ⟨bare, -⟩
    · rw [whole]
      dsimp only
      rw [same, segments]
    · rw [absolute] at bare
      cases bare

end LakeAdmin
