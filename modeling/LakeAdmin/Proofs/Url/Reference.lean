import LakeAdmin.Proofs.Url.Writing
import LakeAdmin.Url.Reference

/-!
Resolving references. A text with a scheme and an authority is cut into these two
leniently as it is strictly, and a reference that names an authority keeps it, whatever
the base is.
-/

namespace LakeAdmin.Url.Reference

open Text

/-! ## Texts with a scheme and an authority -/

/-- A text that names a scheme and an authority, with what follows them. -/
structure Places (l scheme authority tail : List Char) : Prop where
  whole : l = scheme ++ ':' :: '/' :: '/' :: (authority ++ tail)
  scheme : IsScheme scheme
  authority : IsAuthority authority
  ends : ∀ c, tail.head? = some c → endsAuthority c = true

theorem cut_places {l scheme authority tail : List Char} (h : Places l scheme authority tail) :
    (cut l).scheme = scheme ∧ (cut l).authority = authority := by
  unfold cut
  rw [h.whole, cutScheme_append h.scheme]
  dsimp only
  rw [cutAuthority_append h.authority h.ends]
  exact ⟨rfl, rfl⟩

theorem parse_places {s : String} {scheme authority tail : List Char} {u : Url}
    (h : Places s.toList scheme authority tail) (hp : parse s = .ok u) :
    ∃ parts, FromParts parts u ∧ parts.scheme = scheme ∧ parts.authority = authority := by
  obtain ⟨made, -⟩ := parse_ok hp
  obtain ⟨hs, ha⟩ := cut_places h
  exact ⟨_, made, hs, ha⟩

/-- Nothing is dropped from a text that does not start with a blank and holds no line ends. -/
theorem clean_eq {l : List Char} (first : ∀ c, l.head? = some c → 0x20 < c.toNat)
    (inside : ∀ c ∈ l, c ≠ '\t' ∧ c ≠ '\n' ∧ c ≠ '\r') : clean l = l := by
  have kept : l.dropWhile (·.toNat ≤ 0x20) = l := by
    cases l with
    | nil => rfl
    | cons c rest =>
      have := first c rfl
      rw [List.dropWhile_cons_of_neg (by simpa using this)]
  unfold clean
  rw [kept, List.filter_eq_self]
  intro c hc
  simpa [and_assoc] using inside c hc

theorem clean_printable {l : List Char} (h : IsPrintable l)
    (first : ∀ c, l.head? = some c → 0x20 < c.toNat) : clean l = l := by
  refine clean_eq first fun c hc => ⟨?_, ?_, ?_⟩
  all_goals
    rintro rfl
    exact absurd (h _ hc (by decide)) (by decide)

theorem alpha_visible {c : Char} (h : c.isAlpha = true) : 0x20 < c.toNat := by
  unfold Char.isAlpha Char.isUpper Char.isLower at h
  simp only [Bool.or_eq_true, Bool.and_eq_true, decide_eq_true_eq] at h
  rcases h with ⟨low, -⟩ | ⟨low, -⟩
  · have : 65 ≤ c.toNat := low
    omega
  · have : 97 ≤ c.toNat := low
    omega

theorem clean_scheme {scheme rest : List Char} (h : IsScheme scheme)
    (printable : IsPrintable (scheme ++ ':' :: rest)) :
    clean (scheme ++ ':' :: rest) = scheme ++ ':' :: rest := by
  refine clean_printable printable fun c hc => ?_
  cases h with
  | mk letter chars =>
    cases hc
    exact alpha_visible letter

/-- A text is split at its scheme and its authority. -/
theorem split_places {usual s : String} {scheme authority tail : List Char} {r : Reference}
    (h : Places s.toList scheme authority tail) (printable : IsPrintable s.toList)
    (hr : split usual s = .ok r) :
    r.scheme = lowerAscii (String.ofList scheme) ∧ r.authority = authority := by
  unfold split at hr
  rw [h.whole] at hr printable
  rw [clean_scheme h.scheme printable] at hr
  dsimp only at hr
  rw [cutScheme?_append h.scheme] at hr
  dsimp only at hr
  rw [cutAuthority_append h.authority h.ends] at hr
  obtain ⟨_, -, hr⟩ := bind_ok hr
  cases hr
  exact ⟨rfl, rfl⟩

def tail (r : Reference) : List Char :=
  let path := if r.params.isEmpty then r.path else r.path ++ ';' :: r.params
  (if path.isEmpty || path.head? = some '/' then path else '/' :: path) ++
    ((if r.query.isEmpty then [] else '?' :: r.query) ++
      (if r.fragment.isEmpty then [] else '#' :: r.fragment))

theorem toText_toList {r : Reference} (hs : r.scheme ≠ "") (hne : r.authority ≠ []) :
    r.toText.toList = r.scheme.toList ++ ':' :: '/' :: '/' :: (r.authority ++ r.tail) := by
  have named : r.authority.isEmpty = false := by simpa using hne
  have query : (if r.query.isEmpty then "" else "?" ++ String.ofList r.query).toList =
      if r.query.isEmpty then [] else '?' :: r.query := by
    split <;> simp
  have fragment : (if r.fragment.isEmpty then "" else "#" ++ String.ofList r.fragment).toList =
      if r.fragment.isEmpty then [] else '#' :: r.fragment := by
    split <;> simp
  unfold toText tail
  dsimp only
  rw [if_neg hs, named, Bool.not_false, Bool.true_or, Bool.true_or, if_pos rfl]
  simp only [String.toList_append, String.toList_ofList, query, fragment]
  simp

theorem tail_ends (r : Reference) : ∀ c, r.tail.head? = some c → endsAuthority c = true := by
  intro c hc
  unfold tail at hc
  dsimp only at hc
  generalize (if r.params.isEmpty then r.path else r.path ++ ';' :: r.params) = path at hc
  cases path with
  | nil =>
    by_cases hq : r.query.isEmpty
    · by_cases hf : r.fragment.isEmpty
      · simp [hq, hf] at hc
      · simp only [hq, hf, List.isEmpty_nil, Bool.true_or, if_true, List.nil_append] at hc
        cases hc
        rfl
    · simp only [hq, List.isEmpty_nil, Bool.true_or, if_true, List.nil_append] at hc
      cases hc
      rfl
  | cons first rest =>
    by_cases root : first = '/'
    · subst root
      cases hc
      rfl
    · have other : (first :: rest).head? ≠ some '/' := by simpa using root
      rw [List.isEmpty_cons, Bool.false_or, if_neg (by simpa using root)] at hc
      cases hc
      rfl

/-- The text of a reference with an authority names it. -/
theorem toText_places {r : Reference} (hs : IsScheme r.scheme.toList) (hne : r.authority ≠ [])
    (ha : IsAuthority r.authority) :
    Places r.toText.toList r.scheme.toList r.authority r.tail where
  whole := toText_toList (isScheme_ne hs) hne
  scheme := hs
  authority := ha
  ends := tail_ends r

/-! ## References that name an authority -/

theorem parts_tail_ends {u : Url} (h : u.Written) (ha : u.authority ≠ "") :
    ∀ c, u.parts.tail.head? = some c → endsAuthority c = true := by
  intro c hc
  unfold Parts.tail parts at hc
  dsimp only at hc
  rcases h.rooted ha with empty | root
  · rw [empty] at hc
    cases hq : u.query with
    | some query =>
      rw [hq] at hc
      cases hc
      rfl
    | none =>
      rw [hq] at hc
      cases hf : u.fragment with
      | some fragment =>
        rw [hf] at hc
        cases hc
        rfl
      | none =>
        rw [hf] at hc
        cases hc
  · rw [List.head?_append, root] at hc
    cases hc
    rfl

/-- The text of a URL with an authority names it. -/
theorem url_places {u : Url} (h : u.Written) (hs : u.scheme ≠ "") (ha : u.authority ≠ "") :
    Places u.toText.toList u.scheme.toList u.authority.toList u.parts.tail where
  whole := by
    have named : u.parts.authority ≠ [] := fun he => ha (String.toList_eq_nil_iff.mp he)
    rw [Url.toText_toList hs, Parts.text, if_neg named]
    rfl
  scheme := scheme_of_written h hs
  authority := authority_isAuthority h
  ends := parts_tail_ends h ha

theorem host_authority {u : Url} (h : u.host ≠ "") : u.authority ≠ "" := by
  intro he
  have text := authority_toList u
  rw [he] at text
  have none : hostText u.host = [] := by
    have := (List.append_eq_nil_iff.mp text.symm).2
    exact (List.append_eq_nil_iff.mp this).1
  unfold hostText at none
  split at none
  · cases none
  · exact h (String.toList_eq_nil_iff.mp none)

/-- A reference that names an authority keeps it, and its scheme. -/
theorem place_authority (b r : Reference) (reference : String) (h : r.authority ≠ []) :
    place b r reference = reference ∨
      ∃ placed : Reference, place b r reference = placed.toText ∧
        placed.scheme = r.scheme ∧ placed.authority = r.authority := by
  have named : r.authority.isEmpty = false := by simpa using h
  unfold place
  split
  · exact .inl rfl
  · right
    dsimp only
    split
    · exact ⟨r, rfl, rfl, rfl⟩
    · rename_i keeps
      rw [named, Bool.not_false, Bool.and_true] at keeps
      rw [if_neg keeps]
      split
      · exact ⟨_, rfl, rfl, rfl⟩
      · exact ⟨_, rfl, rfl, rfl⟩

theorem toText_ne {u : Url} (hs : u.scheme ≠ "") : u.toText ≠ "" := by
  intro he
  have text := Url.toText_toList hs
  rw [he] at text
  unfold Parts.text at text
  simp at text

/-- What a text with a place is merged into names the same authority. -/
theorem merge_named {base reference merged : String} {scheme authority tail : List Char}
    (h : Places reference.toList scheme authority tail) (printable : IsPrintable reference.toList)
    (ha : authority ≠ []) (hm : merge base reference = .ok merged) :
    ∃ scheme tail, Places merged.toList scheme authority tail := by
  have some : reference ≠ "" := by
    intro empty
    have whole := h.whole
    simp [empty] at whole
  unfold merge at hm
  rw [if_neg some] at hm
  split at hm
  · cases hm
    exact ⟨_, _, h⟩
  · obtain ⟨b, -, hm⟩ := bind_ok hm
    obtain ⟨r, hr, hm⟩ := bind_ok hm
    cases hm
    obtain ⟨named, place⟩ := split_places h printable hr
    rcases place_authority b r reference (by rwa [place]) with same | ⟨placed, same, hps, hpa⟩
    · rw [same]
      exact ⟨_, _, h⟩
    · rw [same, ← place, ← hpa]
      refine ⟨_, _, toText_places ?_ (by rwa [hpa, place]) ?_⟩
      · rw [hps, named]
        exact isScheme_lowerAscii h.scheme
      · rw [hpa, place]
        exact h.authority

/-- What a URL with an authority is merged into names the same authority. -/
theorem merge_places {u : Url} (h : u.Written) (hs : u.scheme ≠ "") (ha : u.authority ≠ "")
    {base merged : String} (hm : merge base u.toText = .ok merged) :
    ∃ scheme tail, Places merged.toList scheme u.authority.toList tail :=
  merge_named (url_places h hs ha) (toText_printable h) (mt String.toList_eq_nil_iff.mp ha) hm

/-- A host that was read twice more is the same, or the same in small letters. -/
theorem parse_host {u v : Url} (h : u.Written) {s : String} {scheme tail : List Char}
    (places : Places s.toList scheme u.authority.toList tail) (hp : parse s = .ok v) :
    (v.host = u.host ∨ v.host = lowerAscii u.host) ∧ v.scheme ≠ "" := by
  obtain ⟨parts, made, hs, ha⟩ := parse_places places hp
  refine ⟨host_again h made ha, ?_⟩
  rw [made.scheme_eq, hs]
  exact lowerScheme_ne places.scheme

theorem lowerAscii_idem (s : String) : lowerAscii (lowerAscii s) = lowerAscii s := by
  rw [← String.toList_inj]
  simp only [lowerAscii_toList, List.map_map]
  refine List.map_congr_left fun c _ => ?_
  by_cases low : c.toNat < 128
  · exact ascii_cases (p := fun c => (Char.toLower ∘ Char.toLower) c = c.toLower)
      (by decide) low
  · have same : c.toLower = c := toLower_nonascii (by omega)
    simp only [Function.comp_apply]
    rw [same, same]

theorem lowerAscii_ne {s : String} (h : s ≠ "") : lowerAscii s ≠ "" := by
  intro he
  have text := lowerAscii_toList s
  rw [he] at text
  exact h (String.toList_eq_nil_iff.mp (List.map_eq_nil_iff.mp text.symm))

/-- Joined to any base and read again, a URL with a host has the same host, but for the
case of letters. -/
theorem join_host {base u w v : Url} (h : u.Written) (hs : u.scheme ≠ "") (hh : u.host ≠ "")
    {reference : String} (hu : parse reference = .ok u) (hj : base.join reference = .ok w)
    (hv : parse w.toText = .ok v) : v.host = u.host ∨ v.host = lowerAscii u.host := by
  unfold join at hj
  obtain ⟨r, hr, hj⟩ := bind_ok hj
  cases hu.symm.trans hr
  obtain ⟨merged, hm, hw⟩ := bind_ok hj
  obtain ⟨scheme, tail, places⟩ := merge_places h hs (host_authority hh) (mapError_ok hm)
  obtain ⟨first, hws⟩ := parse_host h places hw
  have hwh : w.host ≠ "" := by
    rcases first with same | same <;> rw [same]
    · exact hh
    · exact lowerAscii_ne hh
  have written := parse_written hw
  obtain ⟨second, -⟩ := parse_host written (url_places written hws (host_authority hwh)) hv
  rcases first with same | same <;> rcases second with same' | same' <;> rw [same', same]
  · exact .inl rfl
  · exact .inr rfl
  · exact .inr rfl
  · exact .inr (lowerAscii_idem _)

end LakeAdmin.Url.Reference
