import LakeAdmin.Proofs.Url.Join

/-!
What is joined to a root names a scheme, whatever the reference is: that of the root or one
of its own. So a reference that leads to a host leads there by a scheme, and can be asked
for. A name of a host that can be read is not read as nothing.
-/

namespace LakeAdmin.Url

open Text

/-! ## Names -/

namespace HostName

theorem mapM_ne {ε α β : Type} {f : α → Except ε β} {l : List α} {r : List β}
    (h : l.mapM f = .ok r) (some : l ≠ []) : r ≠ [] := by
  cases l with
  | nil => exact absurd rfl some
  | cons a rest =>
    rw [List.mapM_cons] at h
    obtain ⟨first, -, h⟩ := bind_ok h
    obtain ⟨others, -, h⟩ := bind_ok h
    cases h
    simp

theorem check_ne {points : List Nat} (h : Label.check points = .ok ()) : points ≠ [] := by
  rintro rfl
  cases h

theorem readLabel_ne {label : List Char} {points : List Nat} (h : readLabel label = .ok points) :
    points ≠ [] := by
  unfold readLabel at h
  dsimp only at h
  split at h
  · split at h
    · cases h
    · split at h
      · cases h
      · split at h
        · cases h
        · obtain ⟨_, checked, h⟩ := bind_ok h
          cases h
          exact check_ne checked
  · obtain ⟨_, checked, h⟩ := bind_ok h
    cases h
    exact check_ne checked

/-- Labels but for an empty one at the end, if there is not that one alone. -/
theorem labels_front {parts : List (List Char)} (filled : parts ≠ []) (lone : parts = [[]] → False) :
    (if (if parts.getLast? = some [] then [[]] else [] : List (List Char)).isEmpty then parts
      else parts.dropLast) ≠ [] := by
  by_cases last : parts.getLast? = some []
  · rw [if_pos last]
    obtain ⟨front, rfl⟩ := List.getLast?_eq_some_iff.mp last
    rw [List.isEmpty_cons, if_neg Bool.false_ne_true, List.dropLast_concat]
    rintro rfl
    exact lone rfl
  · rw [if_neg last]
    exact filled

/-- A name that is read has a label in front, and no label is empty. -/
theorem decode_ne {name host : String} (h : decode name = .ok host) : host ≠ "" := by
  unfold decode mapLabels at h
  split at h
  · cases h
  · split at h
    · cases h
    · rename_i parts lone
      dsimp only at h
      split at h
      · cases h
      · rename_i treated made
        cases h
        intro empty
        have front := labels_front (splitAt_ne_nil '.' _) lone
        have first := mapM_ne made front
        have each := mapM_mem made
        cases treated with
        | nil => exact first rfl
        | cons label rest =>
          obtain ⟨source, -, read⟩ := each label (by simp)
          have filled : label ≠ [] := by
            cases hp : readLabel source with
            | error fault =>
              rw [hp] at read
              cases read
            | ok points =>
              rw [hp] at read
              cases read
              simpa using readLabel_ne hp
          rw [← String.toList_inj, String.toList_ofList] at empty
          generalize (if (labels name.toList).getLast? = some [] then [[]] else [] :
            List (List Char)) = ending at empty
          rw [List.cons_append] at empty
          generalize rest ++ ending = others at empty
          cases others with
          | nil => exact filled empty
          | cons next others => simp [joinWith] at empty

end HostName

/-- A host that is read as nothing is nothing. -/
theorem hostName_ne {u : Url} {name : String} (h : u.hostName = .ok name) (host : u.host ≠ "") :
    name ≠ "" := by
  unfold hostName at h
  split at h
  · exact HostName.decode_ne h
  · cases h
    exact host

/-! ## Faults -/

/-- A text that is no URL is not one for the reasons for which a text is no reference. -/
theorem parse_fault {s : String} {fault : ReferenceFault} : parse s ≠ .error (.reference fault) := by
  have host (l : List Char) : readHost l ≠ .error (.reference fault) := by
    unfold readHost
    split <;> simp
  have port (scheme l : List Char) : readPort scheme l ≠ .error (.reference fault) := by
    unfold readPort
    split
    · simp
    · split <;> simp
  have path (scheme authority : Bool) (l : List Char) :
      checkPath scheme authority l ≠ .error (.reference fault) := by
    unfold checkPath
    repeat' split
    all_goals simp
  intro h
  unfold parse at h
  split at h
  · cases h
  · split at h
    · cases h
    · unfold ofParts at h
      dsimp only at h
      rcases bind_error h with h | ⟨_, -, h⟩
      · exact host _ h
      · rcases bind_error h with h | ⟨_, -, h⟩
        · exact port _ _ h
        · rcases bind_error h with h | ⟨_, -, h⟩
          · exact path _ _ _ h
          · cases h

/-! ## Schemes -/

theorem parse_scheme {s : String} {u : Url} {scheme rest : List Char} (h : IsScheme scheme)
    (whole : s.toList = scheme ++ ':' :: rest) (hp : parse s = .ok u) : u.scheme ≠ "" := by
  obtain ⟨made, -⟩ := parse_ok hp
  have named : (cut s.toList).scheme = scheme := by
    unfold cut
    rw [whole, cutScheme_append h]
  rw [made.scheme_eq, named]
  exact lowerScheme_ne h

theorem toText_scheme {u : Url} (hs : u.scheme ≠ "") :
    ∃ rest, u.toText.toList = u.scheme.toList ++ ':' :: rest :=
  ⟨_, toText_toList hs⟩

theorem pathChar_visible {c : Char} (h : isPathChar c = true) : 0x20 < c.toNat := by
  have low : c.toNat < 128 := by
    simp only [isPathChar, isQueryChar, isVisible, Bool.and_eq_true, decide_eq_true_eq] at h
    omega
  exact ascii_cases (p := fun c => isPathChar c = true → 0x20 < c.toNat) (by decide) low h

theorem tail_head {u : Url} (h : u.Written) :
    ∀ c, u.parts.tail.head? = some c → 0x20 < c.toNat := by
  intro c hc
  unfold Parts.tail parts at hc
  dsimp only at hc
  cases hp : u.path.toList with
  | cons first rest =>
    rw [hp] at hc
    cases hc
    exact pathChar_visible (h.path c (by simp [hp]))
  | nil =>
    rw [hp] at hc
    cases hq : u.query with
    | some query =>
      rw [hq] at hc
      cases hc
      decide
    | none =>
      rw [hq] at hc
      cases hf : u.fragment with
      | some fragment =>
        rw [hf] at hc
        cases hc
        decide
      | none =>
        rw [hf] at hc
        cases hc

namespace Reference

/-- Nothing of the text of a URL is dropped when it is read as a reference. -/
theorem clean_schemeless {u : Url} (h : u.Written) (hs : u.scheme = "") :
    clean u.toText.toList = u.toText.toList := by
  refine clean_printable (toText_printable h) fun c hc => ?_
  rw [toText_schemeless hs] at hc
  split at hc
  · exact tail_head h c hc
  · cases hc
    decide

theorem split_scheme {usual s : String} {r : Reference} (h : split usual s = .ok r) :
    r.scheme = usual ∨ ∃ cut, cutScheme? (clean s.toList) = some cut := by
  unfold split at h
  dsimp only at h
  cases hc : cutScheme? (clean s.toList) with
  | some cut => exact .inr ⟨cut, rfl⟩
  | none =>
    rw [hc] at h
    obtain ⟨_, -, h⟩ := bind_ok h
    cases h
    exact .inl rfl

/-- A URL whose text names a scheme when it is read as a reference starts with one. -/
theorem toText_named {u : Url} (h : u.Written) {cut : List Char × List Char}
    (named : cutScheme? (clean u.toText.toList) = some cut) :
    ∃ scheme rest, IsScheme scheme ∧ u.toText.toList = scheme ++ ':' :: rest := by
  by_cases hs : u.scheme = ""
  · rw [clean_schemeless h hs] at named
    rcases cutScheme_cases u.toText.toList with ⟨valid, whole, -⟩ | ⟨-, none, -⟩
    · exact ⟨_, _, valid, whole⟩
    · rw [none] at named
      cases named
  · obtain ⟨rest, whole⟩ := toText_scheme hs
    exact ⟨_, rest, scheme_of_written h hs, whole⟩

theorem toText_starts {r : Reference} (hs : r.scheme ≠ "") :
    ∃ rest, r.toText.toList = r.scheme.toList ++ ':' :: rest := by
  unfold toText
  dsimp only
  rw [if_neg hs]
  simp only [String.toList_append, List.append_assoc]
  exact ⟨_, rfl⟩

/-- A reference with the scheme of the base keeps it, if it may be relative. -/
theorem place_scheme {b r : Reference} (reference : String) (kept : r.scheme = b.scheme)
    (known : relativeSchemes.contains r.scheme = true) :
    ∃ placed : Reference, place b r reference = placed.toText ∧ placed.scheme = r.scheme := by
  unfold place
  rw [known, if_neg (by simp [kept])]
  dsimp only
  cases authoritySchemes.contains r.scheme with
  | false =>
    rw [Bool.false_and, if_neg Bool.false_ne_true, if_neg Bool.false_ne_true]
    split
    · exact ⟨_, rfl, rfl⟩
    · exact ⟨_, rfl, rfl⟩
  | true =>
    rw [if_pos rfl]
    split
    · exact ⟨r, rfl, rfl⟩
    · split
      · exact ⟨_, rfl, rfl⟩
      · exact ⟨_, rfl, rfl⟩

/-- What a URL is merged into beside a root starts with a scheme. -/
theorem merge_scheme {base u : Url} (written : base.Written) (root : base.IsRoot)
    (h : u.Written) {merged : String} (hm : merge base.toText u.toText = .ok merged) :
    ∃ scheme rest, IsScheme scheme ∧ merged.toList = scheme ++ ':' :: rest := by
  have own := scheme_of_written written root.scheme_ne
  unfold merge at hm
  rw [if_neg (toText_ne root.scheme_ne)] at hm
  split at hm
  · cases hm
    obtain ⟨rest, whole⟩ := toText_scheme root.scheme_ne
    exact ⟨_, rest, own, whole⟩
  · obtain ⟨b, hb, hm⟩ := bind_ok hm
    obtain ⟨r, hr, hm⟩ := bind_ok hm
    cases hm
    have same : b.scheme = base.scheme := by
      rw [split_root written root] at hb
      obtain ⟨_, -, hb⟩ := bind_ok hb
      cases hb
      rfl
    by_cases kept : r.scheme = b.scheme
    · have known : relativeSchemes.contains r.scheme = true := by
        rw [kept, same]
        exact (http_known root.scheme).1
      obtain ⟨placed, text, scheme⟩ := place_scheme u.toText kept known
      have named : placed.scheme = base.scheme := scheme.trans (kept.trans same)
      rw [text]
      obtain ⟨rest, whole⟩ := toText_starts (named ▸ root.scheme_ne)
      exact ⟨_, rest, by rwa [named], whole⟩
    · obtain ⟨cut, named⟩ := (split_scheme hr).resolve_left kept
      unfold place
      rw [if_pos (.inl kept)]
      exact toText_named h named

end Reference

/-- What is joined to a root names a scheme. -/
theorem join_scheme {base w : Url} {reference : String} (written : base.Written)
    (root : base.IsRoot) (hj : base.join reference = .ok w) : w.scheme ≠ "" := by
  unfold join at hj
  obtain ⟨r, hr, hj⟩ := bind_ok hj
  obtain ⟨merged, hm, hw⟩ := bind_ok hj
  obtain ⟨scheme, rest, valid, whole⟩ :=
    Reference.merge_scheme written root (parse_written hr) (mapError_ok hm)
  exact parse_scheme valid whole hw

end LakeAdmin.Url
