import LakeAdmin.Proofs.Url.Settled

/-!
References behind a lone colon. The colon counts as an empty scheme and is dropped when the
reference is read, so that what stands behind it is joined to the base: if that names a scheme
or an authority, it leads there. All other references without a scheme stay beside the base.
-/

namespace LakeAdmin.Url

open Text

/-- A reference that names a scheme or an authority behind a lone colon. -/
def Strays (l : List Char) : Prop :=
  ∃ behind, l = ':' :: behind ∧ (NamesScheme behind ∨ ['/', '/'] <+: behind)

/-- Where a reference goes with this text behind its colon: by the scheme and to the host that
the text names, as far as a path may hold the authority. -/
structure Follows (base : Url) (behind : List Char) (w : Url) : Prop where
  scheme : ∀ scheme rest, IsScheme scheme → behind = scheme ++ ':' :: rest →
    w.scheme = lowerAscii (String.ofList scheme)
  host : ∀ v, parse (String.ofList behind) = .ok v → v.host ≠ "" →
    (v.scheme = "" ∨ ∀ c ∈ (cut behind).authority, isPathChar c = true) →
    (w.host = v.host ∨ w.host = lowerAscii v.host) ∧ (v.scheme = "" → w.scheme = base.scheme)

/-! ## References that stay -/

theorem unstrayed {l : List Char} (schemeless : ¬NamesScheme l) (rootless : l.head? ≠ some '/')
    (h : ¬Strays l) : ¬NamesScheme (cutScheme l).2 ∧ ¬['/', '/'] <+: (cutScheme l).2 := by
  rcases cutScheme_cases l with ⟨valid, whole, -⟩ | ⟨-, -, same | whole⟩
  · exact absurd ⟨_, _, valid, whole⟩ schemeless
  · rw [same]
    refine ⟨schemeless, fun ⟨rest, twice⟩ => rootless ?_⟩
    rw [← twice]
    rfl
  · exact ⟨fun named => h ⟨_, whole, .inl named⟩, fun twice => h ⟨_, whole, .inr twice⟩⟩

/-- What is joined to a URL and does not stray is read from parts at its place. -/
theorem join_beside {base w : Url} {s : String} (written : base.Written)
    (http : base.scheme = "http" ∨ base.scheme = "https") (ha : base.authority ≠ "")
    (schemeless : ¬NamesScheme s.toList) (rootless : s.toList.head? ≠ some '/')
    (stays : ¬Strays s.toList) (hj : base.join s = .ok w) :
    ∃ merged parts, parse merged = .ok w ∧ merged.toList = parts.text ∧
      Reference.Beside base parts := by
  obtain ⟨unnamed, single⟩ := unstrayed schemeless rootless stays
  unfold join at hj
  obtain ⟨r, hr, hj⟩ := bind_ok hj
  obtain ⟨merged, hm, hw⟩ := bind_ok hj
  have placeless := parse_placeless hr schemeless single
  have named : ¬NamesScheme r.toText.toList := by
    intro named
    obtain ⟨scheme, valid, began⟩ := namesScheme_iff.mp named
    exact unnamed (namesScheme_iff.mpr
      ⟨scheme, valid, placeless_began placeless (schemeMark_path valid) began⟩)
  have twice : ¬['/', '/'] <+: r.toText.toList := by
    refine fun began => single (placeless_began placeless ?_ began)
    rw [List.forall_mem_cons, List.forall_mem_singleton]
    decide
  obtain ⟨parts, text, beside⟩ := Reference.merge_beside written http ha (parse_written hr)
    placeless.scheme placeless.authority named twice (mapError_ok hm)
  exact ⟨merged, parts, hw, text, beside⟩

/-! ## References that lead away -/

theorem cutScheme_colon (behind : List Char) : cutScheme (':' :: behind) = ([], behind) := rfl

theorem colon_schemeless (behind : List Char) : ¬NamesScheme (':' :: behind) := by
  rintro ⟨scheme, rest, valid, whole⟩
  cases valid with
  | mk letter chars =>
    cases whole
    cases letter

theorem scheme_rootless {scheme rest : List Char} (valid : IsScheme scheme) :
    ¬['/', '/'] <+: scheme ++ rest := by
  rintro ⟨more, whole⟩
  cases valid with
  | mk letter chars =>
    simp only [List.cons_append, List.cons.injEq] at whole
    rw [← whole.1] at letter
    cases letter

/-- Behind a colon, a text with a scheme is read as it is, up to the colon behind the scheme. -/
theorem parse_colon {s : String} {scheme rest : List Char} {r : Url} (valid : IsScheme scheme)
    (whole : s.toList = ':' :: (scheme ++ ':' :: rest)) (hr : parse s = .ok r) :
    Placeless s.toList r := by
  refine parse_placeless hr ?_ ?_
  · rw [whole]
    exact colon_schemeless _
  · rw [whole, cutScheme_colon]
    exact scheme_rootless valid

namespace Reference

/-- What a text with a scheme is merged into names the same scheme but for the case of
letters. -/
theorem merge_schemed {base reference merged : String} {scheme rest : List Char}
    (valid : IsScheme scheme) (whole : reference.toList = scheme ++ ':' :: rest)
    (printable : IsPrintable reference.toList) (hm : merge base reference = .ok merged) :
    ∃ scheme' rest', IsScheme scheme' ∧ merged.toList = scheme' ++ ':' :: rest' ∧
      lowerAscii (String.ofList scheme') = lowerAscii (String.ofList scheme) := by
  have some : reference ≠ "" := by
    rintro rfl
    simp at whole
  unfold merge at hm
  rw [if_neg some] at hm
  split at hm
  · cases hm
    exact ⟨_, _, valid, whole, rfl⟩
  · obtain ⟨b, -, hm⟩ := bind_ok hm
    obtain ⟨r, hr, hm⟩ := bind_ok hm
    cases hm
    have named : r.scheme = lowerAscii (String.ofList scheme) := by
      unfold split at hr
      rw [whole] at hr printable
      rw [clean_scheme valid printable] at hr
      dsimp only at hr
      rw [cutScheme?_append valid] at hr
      obtain ⟨_, -, hr⟩ := bind_ok hr
      cases hr
      rfl
    by_cases kept : r.scheme = b.scheme ∧ relativeSchemes.contains r.scheme = true
    · obtain ⟨placed, text, same⟩ := place_scheme reference kept.1 kept.2
      have lower : IsScheme placed.scheme.toList := by
        rw [same, named]
        exact isScheme_lowerAscii valid
      obtain ⟨more, whole⟩ := toText_starts (isScheme_ne lower)
      rw [text]
      refine ⟨_, more, lower, whole, ?_⟩
      rw [String.ofList_toList, same, named, lowerAscii_idem]
    · have other : r.scheme ≠ b.scheme ∨ (!relativeSchemes.contains r.scheme) = true := by
        rw [not_and_or] at kept
        exact kept.imp id fun unknown => by simpa using unknown
      unfold place
      rw [if_pos other]
      exact ⟨_, _, valid, whole, rfl⟩

end Reference

/-- Behind a colon, a scheme is followed. -/
theorem join_colon {base w : Url} {s : String} {scheme rest : List Char}
    (valid : IsScheme scheme) (whole : s.toList = ':' :: (scheme ++ ':' :: rest))
    (hj : base.join s = .ok w) : w.scheme = lowerAscii (String.ofList scheme) := by
  unfold join at hj
  obtain ⟨r, hr, hj⟩ := bind_ok hj
  obtain ⟨merged, hm, hw⟩ := bind_ok hj
  have placeless := parse_colon valid whole hr
  have kept : ∀ c ∈ scheme ++ [':'], isPathChar c = true := fun c hc =>
    (schemeMark_path valid c hc).1
  have behind : (cutScheme s.toList).2 = (scheme ++ [':']) ++ rest := by
    rw [whole, cutScheme_colon]
    simp
  obtain ⟨more, text, -⟩ := placeless_begins placeless kept behind
  rw [List.append_assoc, List.singleton_append] at text
  obtain ⟨scheme', rest', valid', text', lower⟩ := Reference.merge_schemed valid text
    (toText_printable (parse_written hr)) (mapError_ok hm)
  obtain ⟨made, -⟩ := parse_ok hw
  have named : (cut merged.toList).scheme = scheme' := by
    unfold cut
    rw [text', cutScheme_append valid']
  rw [made.scheme_eq, named, lower]

/-- An authority stands behind two slashes. -/
theorem cut_authority {l : List Char} (ha : (cut l).authority ≠ []) :
    ∃ tail, (cutScheme l).2 = '/' :: '/' :: ((cut l).authority ++ tail) ∧
      ∀ c, tail.head? = some c → endsAuthority c = true := by
  unfold cut at ha ⊢
  dsimp only at ha ⊢
  generalize (cutScheme l).2 = behind at ha ⊢
  unfold cutAuthority at ha ⊢
  split at ha
  · rename_i rest
    refine ⟨rest.dropWhile (!endsAuthority ·), ?_, fun c hc => ?_⟩
    · simp [List.takeWhile_append_dropWhile]
    · have stopped := List.head?_dropWhile_not (!endsAuthority ·) rest
      rw [hc] at stopped
      simpa using stopped
  · exact absurd rfl ha

/-- Behind a colon, a place is followed, if a path may hold its authority. -/
theorem join_place {base w : Url} {s : String} {behind : List Char}
    (whole : s.toList = ':' :: behind) (valid : IsScheme (cut behind).scheme)
    (ha : (cut behind).authority ≠ [])
    (kept : ∀ c ∈ (cut behind).authority, isPathChar c = true) (hj : base.join s = .ok w) :
    encodeHost (cutHost (cut behind).authority).2.1 = .ok w.host := by
  obtain ⟨tail, place, ends⟩ := cut_authority ha
  have text : behind = (cut behind).scheme ++ ':' :: (cutScheme behind).2 := by
    rcases cutScheme_cases behind with ⟨-, text, -⟩ | ⟨none, -⟩
    · exact text
    · rw [show (cut behind).scheme = [] from none] at valid
      cases valid
  rw [place] at text
  have inside : IsAuthority (cut behind).authority := cutAuthority_authority _
  generalize (cut behind).scheme = scheme at valid text
  generalize (cut behind).authority = authority at ha kept inside text ⊢
  unfold join at hj
  obtain ⟨r, hr, hj⟩ := bind_ok hj
  obtain ⟨merged, hm, hw⟩ := bind_ok hj
  rw [text] at whole
  have placeless := parse_colon valid whole hr
  have plain : ∀ c ∈ (scheme ++ [':']) ++ '/' :: '/' :: authority, isPathChar c = true := by
    intro c hc
    rcases List.mem_append.mp hc with hc | hc
    · exact (schemeMark_path valid c hc).1
    · simp only [List.mem_cons] at hc
      rcases hc with rfl | rfl | hc
      · decide
      · decide
      · exact kept c hc
  have front : (cutScheme s.toList).2 = ((scheme ++ [':']) ++ '/' :: '/' :: authority) ++ tail := by
    rw [whole, cutScheme_colon]
    simp
  obtain ⟨more, text, still⟩ := placeless_begins placeless plain front
  have places : Reference.Places r.toText.toList scheme authority more :=
    ⟨by simp [text], valid, inside, still ends⟩
  obtain ⟨_, _, places⟩ := Reference.merge_named places
    (toText_printable (parse_written hr)) ha (mapError_ok hm)
  obtain ⟨parts, made, -, same⟩ := Reference.parse_places places hw
  rw [← same]
  exact made.host

/-- A reference that is read as an authority without a scheme takes the scheme of the base. -/
theorem merge_twice {base r : Url} {merged : String} (hb : base.Written)
    (http : base.scheme = "http" ∨ base.scheme = "https") (place : base.authority ≠ "")
    (hr : r.Written) (scheme : r.scheme = "") (ha : r.authority ≠ "")
    (hm : Reference.merge base.toText r.toText = .ok merged) :
    ∃ tail, Reference.Places merged.toList base.scheme.toList r.authority.toList tail := by
  have hs := http_ne http
  have text : r.toText.toList = '/' :: '/' :: (r.authority.toList ++ r.parts.tail) := by
    rw [toText_schemeless scheme, if_neg ha]
    rfl
  have some : r.toText ≠ "" := by
    intro empty
    simp [empty] at text
  have schemeless : ¬NamesScheme ('/' :: '/' :: (r.authority.toList ++ r.parts.tail)) := by
    rintro ⟨scheme, rest, valid, whole⟩
    exact scheme_rootless valid ⟨_, whole⟩
  unfold Reference.merge at hm
  rw [if_neg (Reference.toText_ne hs), if_neg some] at hm
  obtain ⟨b, readBase, hm⟩ := bind_ok hm
  obtain ⟨q, readRef, hm⟩ := bind_ok hm
  cases hm
  have same : b.scheme = base.scheme := by
    rw [Reference.split_base hb http place] at readBase
    obtain ⟨_, -, readBase⟩ := bind_ok readBase
    cases readBase
    rfl
  obtain ⟨sameScheme, named⟩ : q.scheme = b.scheme ∧ q.authority = r.authority.toList := by
    unfold Reference.split at readRef
    rw [Reference.clean_schemeless hr scheme, text] at readRef
    dsimp only at readRef
    rw [cutScheme?_eq_none.mpr schemeless] at readRef
    dsimp only at readRef
    rw [cutAuthority_append (authority_isAuthority hr) (Reference.parts_tail_ends hr ha)] at readRef
    obtain ⟨_, -, readRef⟩ := bind_ok readRef
    cases readRef
    exact ⟨rfl, rfl⟩
  have filled : q.authority ≠ [] := by
    rw [named]
    exact mt String.toList_eq_nil_iff.mp ha
  rw [Reference.place_there r.toText (same ▸ http) sameScheme filled, ← same, ← sameScheme, ← named]
  refine ⟨_, Reference.toText_places ?_ filled ?_⟩
  · rw [sameScheme, same]
    exact scheme_of_written hb hs
  · rw [named]
    exact authority_isAuthority hr

/-- It leads to its own host. -/
theorem join_twice {base w r : Url} {s : String} (written : base.Written)
    (http : base.scheme = "http" ∨ base.scheme = "https") (ha : base.authority ≠ "")
    (hr : parse s = .ok r) (scheme : r.scheme = "") (host : r.host ≠ "")
    (hj : base.join s = .ok w) :
    (w.host = r.host ∨ w.host = lowerAscii r.host) ∧ w.scheme = base.scheme := by
  unfold join at hj
  obtain ⟨r', hr', hj⟩ := bind_ok hj
  cases hr.symm.trans hr'
  obtain ⟨merged, hm, hw⟩ := bind_ok hj
  obtain ⟨tail, places⟩ := merge_twice written http ha (parse_written hr) scheme
    (Reference.host_authority host) (mapError_ok hm)
  obtain ⟨same, -⟩ := Reference.parse_host (parse_written hr) places hw
  obtain ⟨parts, made, named, -⟩ := Reference.parse_places places hw
  refine ⟨same, ?_⟩
  rw [made.scheme_eq, named, http_lower http]

/-- Two colons in front are no reference. -/
theorem parse_colons {s : String} {r : Url} {behind : List Char}
    (whole : s.toList = ':' :: ':' :: behind) (hr : parse s = .ok r) : False := by
  have single : ¬['/', '/'] <+: (cutScheme s.toList).2 := by
    rw [whole, cutScheme_colon]
    rintro ⟨more, text⟩
    cases text
  have placeless := parse_placeless hr (by rw [whole]; exact colon_schemeless _) single
  have tail := placeless.whole
  rw [whole, cutScheme_colon, ← whole] at tail
  have colon : (cut s.toList).path.head? = some ':' := by
    obtain ⟨rest, path⟩ : [':'] <+: (cut s.toList).path :=
      tail_front ⟨behind, tail⟩ (by decide) (by decide)
    rw [← path]
    rfl
  have checked := placeless.checked
  unfold checkPath at checked
  rw [if_neg Bool.false_ne_true, if_neg Bool.false_ne_true, if_pos colon] at checked
  split at checked <;> cases checked

/-- A reference behind a colon is followed. -/
theorem join_follows {base w : Url} {s : String} {behind : List Char} (written : base.Written)
    (http : base.scheme = "http" ∨ base.scheme = "https") (ha : base.authority ≠ "")
    (whole : s.toList = ':' :: behind) (hj : base.join s = .ok w) : Follows base behind w where
  scheme := fun scheme rest valid text => join_colon valid (by rw [whole, text]) hj
  host := by
    intro v hv host kept
    obtain ⟨made, -⟩ := parse_ok hv
    rw [String.toList_ofList] at made
    have named : (cut behind).authority ≠ [] := by
      intro none
      have read := made.host
      rw [none] at read
      exact host (Except.ok.inj read).symm
    obtain ⟨r, hr, -⟩ := bind_ok hj
    rcases cutScheme_cases behind with ⟨valid, -⟩ | ⟨none, -, same | colon⟩
    · have scheme : v.scheme ≠ "" := by
        rw [made.scheme_eq]
        exact lowerScheme_ne valid
      have read := join_place whole valid named (kept.resolve_left scheme) hj
      have same := Except.ok.inj (read.symm.trans made.host)
      exact ⟨.inl same, fun empty => absurd empty scheme⟩
    · have cuts : cut s.toList = cut behind := by
        have unnamed : cutScheme behind = ([], behind) := Prod.ext none same
        unfold cut
        rw [whole, cutScheme_colon, unnamed]
      obtain ⟨made', -⟩ := parse_ok hr
      rw [cuts] at made'
      have sameHost : r.host = v.host := Except.ok.inj (made'.host.symm.trans made.host)
      have scheme : r.scheme = "" := by
        rw [made'.scheme_eq, show (cut behind).scheme = [] from none]
        simp [lowerAscii]
      rw [← sameHost] at host ⊢
      obtain ⟨leads, own⟩ := join_twice written http ha hr scheme host hj
      exact ⟨leads, fun _ => own⟩
    · rw [colon] at whole
      exact (parse_colons whole hr).elim

end LakeAdmin.Url
