import LakeAdmin.Proofs.Url.Anchor

/-!
Places that are read again. A place is settled if its normal form is read as itself, may stand
in a reference, and names a host that can be read. What is read beside a settled place has it
too, and is read once more from its own text.
-/

namespace LakeAdmin.Url

open Text

/-- A URL whose place stays as it is: its authority is read as itself, a reference may have it,
and the name of its host can be read. A port that is usual for the scheme in small letters, but
was read beside one in capitals, is not read as itself. -/
structure IsSettled (u : Url) : Prop where
  again : ∃ v, ofParts ⟨u.scheme.toList, u.authority.toList, ['/'], none, none⟩ = .ok v ∧
    v.authority = u.authority
  plain : Reference.checkAuthority u.authority.toList = .ok ()
  named : ∃ name, u.hostName = .ok name

/-! ## The same place -/

/-- URLs that are made from parts at one place have one place. -/
theorem fromParts_place {parts parts' : Parts} {u v : Url} (made : FromParts parts u)
    (made' : FromParts parts' v) (scheme : parts.scheme = parts'.scheme)
    (authority : parts.authority = parts'.authority) : u.authority = v.authority := by
  have user : u.userInfo = v.userInfo := by
    rw [made.user_eq, made'.user_eq, authority]
  have host : u.host = v.host := by
    have read := made.host
    rw [authority] at read
    exact Except.ok.inj (read.symm.trans made'.host)
  have port : u.port = v.port := by
    have read := made.port
    rw [scheme, authority] at read
    exact Except.ok.inj (read.symm.trans made'.port)
  unfold Url.authority
  rw [user, host, port]

theorem hostText_injective {first second : String} (same : hostText first = hostText second) :
    first = second := by
  rw [← String.toList_inj]
  -- The brackets are there for a colon only, and the text in them holds it as well.
  have colon {bracketed plain : String} (inside : ':' ∈ bracketed.toList)
      (text : '[' :: (bracketed.toList ++ [']']) = plain.toList) : ':' ∈ plain.toList := by
    rw [← text]
    simp [inside]
  unfold hostText at same
  simp only [List.contains_eq_mem, decide_eq_true_eq] at same
  split at same
  · rename_i bracketed
    split at same
    · simpa using same
    · rename_i plain
      exact absurd (colon bracketed same) plain
  · rename_i plain
    split at same
    · rename_i bracketed
      exact absurd (colon bracketed same.symm) plain
    · exact same

/-- The host can be told from the authority. -/
theorem authority_host {u v : Url} (hu : u.Written) (hv : v.Written)
    (same : u.authority = v.authority) : u.host = v.host := by
  have cuts := cutHost_authority hu
  rw [same, cutHost_authority hv] at cuts
  simp only [Prod.mk.injEq] at cuts
  exact hostText_injective cuts.2.1.symm

theorem beside_made {base w : Url} {parts : Parts} {s : String}
    (beside : Reference.Beside base parts) (text : s.toList = parts.text)
    (hw : parse s = .ok w) : FromParts parts w := by
  obtain ⟨made, -⟩ := parse_ok hw
  rwa [text, cut_text beside.fit] at made

theorem beside_scheme {base w : Url} {parts : Parts} (beside : Reference.Beside base parts)
    (http : base.scheme = "http" ∨ base.scheme = "https") (made : FromParts parts w) :
    w.scheme = base.scheme := by
  rw [made.scheme_eq, beside.scheme, http_lower http]

/-- What is read beside a settled URL has its place. -/
theorem beside_place {base w : Url} {parts : Parts} (settled : base.IsSettled)
    (beside : Reference.Beside base parts) (made : FromParts parts w) :
    w.authority = base.authority := by
  obtain ⟨v, hv, same⟩ := settled.again
  rw [← same]
  exact fromParts_place made (ofParts_ok hv) beside.scheme beside.authority

/-- A host is read as a host. -/
theorem beside_host {base w : Url} {parts : Parts} (written : base.Written)
    (beside : Reference.Beside base parts) (made : FromParts parts w) (host : base.host ≠ "") :
    w.host ≠ "" := by
  rcases host_again written made beside.authority with same | same
  · rwa [same]
  · rw [same]
    exact Reference.lowerAscii_ne host

/-- What is read beside a URL with a host and has its place shows that it can be read again. -/
theorem place_again {base w : Url} {parts : Parts} (beside : Reference.Beside base parts)
    (made : FromParts parts w) (ha : base.authority ≠ "") (same : w.authority = base.authority) :
    ∃ v, ofParts ⟨base.scheme.toList, base.authority.toList, ['/'], none, none⟩ = .ok v ∧
      v.authority = base.authority := by
  have place := authority_namesPlace made (by rwa [same])
  obtain ⟨v, hv, -⟩ : ∃ v, ofParts ⟨base.scheme.toList, base.authority.toList, ['/'], none, none⟩ =
      .ok v ∧ v.scheme = w.scheme ∧ v.userInfo = w.userInfo ∧ v.host = w.host ∧ v.port = w.port :=
    ofParts_beside made place beside.scheme.symm beside.authority.symm (.inr rfl)
  refine ⟨v, hv, ?_⟩
  rw [← same]
  exact fromParts_place (ofParts_ok hv) made beside.scheme.symm beside.authority.symm

/-! ## Read again -/

theorem parse_short {s : String} {u : Url} (h : parse s = .ok u) : s.length ≤ lengthLimit := by
  unfold parse at h
  split at h
  · cases h
  · omega

/-- What is read beside a URL and has its place is read again, with the same host. -/
theorem beside_again {base w : Url} {parts : Parts} {s : String}
    (beside : Reference.Beside base parts) (text : s.toList = parts.text)
    (hw : parse s = .ok w) (scheme : w.scheme = base.scheme) (hs : base.scheme ≠ "")
    (authority : w.authority = base.authority) (ha : base.authority ≠ "") :
    ∃ u, parse w.toText = .ok u ∧ u.host = w.host := by
  have written := parse_written hw
  rw [← scheme] at hs
  rw [← authority] at ha
  have made := beside_made beside text hw
  have fit := parts_fit written hs fun empty => absurd empty ha
  have own : w.toText.toList = w.parts.text := toText_toList hs
  have sameScheme : w.parts.scheme = parts.scheme :=
    (congrArg String.toList scheme).trans beside.scheme.symm
  have sameAuthority : w.parts.authority = parts.authority :=
    (congrArg String.toList authority).trans beside.authority.symm
  have short : w.toText.length ≤ lengthLimit := by
    refine Nat.le_trans ?_ (parse_short hw)
    have tail := fromParts_shorter beside.plain made
    rw [← String.length_toList, ← String.length_toList, own, text]
    unfold Parts.text
    rw [sameScheme, sameAuthority]
    simp only [List.length_append, List.length_cons]
    omega
  obtain ⟨u, hu, -, -, host, -⟩ : ∃ u, ofParts w.parts = .ok u ∧ u.scheme = w.scheme ∧
      u.userInfo = w.userInfo ∧ u.host = w.host ∧ u.port = w.port :=
    ofParts_beside made (authority_namesPlace made ha) sameScheme sameAuthority
      (fit.rooted (mt String.toList_eq_nil_iff.mp ha))
  refine ⟨u, ?_, host⟩
  rw [parse_eq short (toText_printable written), own, cut_text fit, hu]

namespace Reference

/-- A text with a place is absolute as soon as its authority may stand in a reference. -/
theorem isAbsolute_places {s : String} {scheme authority tail : List Char}
    (h : Places s.toList scheme authority tail) (printable : IsPrintable s.toList)
    (ne : authority ≠ []) : isAbsolute s = true ↔ checkAuthority authority = .ok () := by
  obtain ⟨r, read⟩ : ∃ r, split "" s = (checkAuthority authority).bind fun _ => .ok r := by
    unfold split
    rw [h.whole] at printable ⊢
    rw [clean_scheme h.scheme printable]
    dsimp only
    rw [cutScheme?_append h.scheme]
    dsimp only
    rw [cutAuthority_append h.authority h.ends]
    exact ⟨_, rfl⟩
  unfold isAbsolute
  cases hc : checkAuthority authority with
  | error fault =>
    rw [hc] at read
    rw [read]
    simp [Except.bind]
  | ok _ =>
    rw [hc] at read
    obtain ⟨named, place⟩ := split_places h printable read
    have scheme : r.scheme ≠ "" := by
      rw [named]
      exact lowerScheme_ne h.scheme
    rw [read]
    simp [Except.bind, scheme, place, ne]

end Reference

end LakeAdmin.Url
