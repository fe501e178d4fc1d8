import LakeAdmin.Proofs.Client.OwnHost
import LakeAdmin.Proofs.Client.Sending
import LakeAdmin.Proofs.Url.Stray

/-!
References without a scheme. Whatever slashes, dots or backslashes they are made of, they are
resolved to an address at the place of the base URL, as long as the base URL keeps that place
when it is read once more. A lone colon in front breaks this: the check for a scheme passes
over it, and what stands behind it is followed.
-/

namespace LakeAdmin

open Http Text Url

/-- A reference keeps to the base URL: its address names the scheme and the authority of the
base, it passes for one on the own host, and the address is resolved to itself. -/
structure Client.Stays (client : Client) (base : Url) (reference address : String) : Prop where
  place : ∃ tail,
    Reference.Places address.toList base.scheme.toList base.authority.toList tail
  own : client.isOwnHost reference = .ok true
  again : client.resolve address = .ok address

/-! ## What is joined -/

theorem clean_visible {l : List Char} (h : ∀ c ∈ l, 0x20 < c.toNat) : Reference.clean l = l := by
  refine Reference.clean_eq (fun c hc => h c (List.mem_of_mem_head? hc)) fun c hc => ⟨?_, ?_, ?_⟩
  all_goals
    rintro rfl
    exact absurd (h _ hc) (by decide)

/-- A reference without a scheme is not absolute. -/
theorem isAbsolute_schemeless {reference : String} (visible : ∀ c ∈ reference.toList, 0x20 < c.toNat)
    (schemeless : ¬NamesScheme (reference.toList.dropWhile (· = '/'))) :
    Reference.isAbsolute reference = false := by
  have none : cutScheme? reference.toList = none := by
    refine cutScheme?_eq_none.mpr fun named => schemeless ?_
    rwa [namesScheme_kept named]
  unfold Reference.isAbsolute
  split
  · rename_i r hr
    rcases Reference.split_scheme hr with bare | ⟨cut, named⟩
    · simp [bare]
    · rw [clean_visible visible, none] at named
      cases named
  · rfl

/-- What is resolved without a scheme is joined to the base URL. -/
theorem resolve_joins {client : Client} {base : Url} {reference address : String}
    (hb : Url.parse client.baseUrl = .ok base)
    (visible : ∀ c ∈ reference.toList, 0x20 < c.toNat)
    (schemeless : ¬NamesScheme (reference.toList.dropWhile (· = '/')))
    (ha : client.resolve reference = .ok address) :
    ∃ w, base.join (dropLeading (· = '/') reference) = .ok w ∧ address = w.toText := by
  rcases resolve_ok ha with ⟨absolute, -⟩ | ⟨-, base', w, hb', hj, text⟩
  · rw [isAbsolute_schemeless visible schemeless] at absolute
    cases absolute
  · cases hb.symm.trans hb'
    exact ⟨w, hj, text⟩

/-! ## Settled bases -/

/-- An address at the place of a base URL that is resolved shows that references may have its
authority. -/
theorem resolve_checks {client : Client} {base : Url} {address resolved : String}
    {tail : List Char} (hb : Url.parse client.baseUrl = .ok base)
    (http : base.scheme = "http" ∨ base.scheme = "https") (ha : base.authority ≠ "")
    (place : Reference.Places address.toList base.scheme.toList base.authority.toList tail)
    (printable : IsPrintable address.toList) (again : client.resolve address = .ok resolved) :
    Reference.checkAuthority base.authority.toList = .ok () := by
  have written := parse_written hb
  rcases resolve_ok again with ⟨absolute, -⟩ | ⟨-, base', url, hb', hj, -⟩
  · refine (Reference.isAbsolute_places place printable ?_).mp absolute
    exact mt String.toList_eq_nil_iff.mp ha
  · cases hb.symm.trans hb'
    rw [dropLeading_named ⟨_, _, place.scheme, place.whole⟩] at hj
    unfold Url.join at hj
    obtain ⟨r, hr, hj⟩ := bind_ok hj
    obtain ⟨merged, hm, -⟩ := bind_ok hj
    have merges := mapError_ok hm
    unfold Reference.merge at merges
    rw [if_neg (Reference.toText_ne (http_ne http)),
      if_neg (Reference.toText_ne (parse_scheme place.scheme place.whole hr)),
      Reference.split_base written http ha] at merges
    obtain ⟨_, split, -⟩ := bind_ok merges
    obtain ⟨_, checked, -⟩ := bind_ok split
    exact checked

/-- What is read beside the base URL of a client, at a settled place. -/
theorem settled_stays {client : Client} {base w : Url} {reference merged : String} {parts : Parts}
    (hb : Url.parse client.baseUrl = .ok base)
    (http : base.scheme = "http" ∨ base.scheme = "https") (ha : base.authority ≠ "")
    (ht : client.resolve reference = .ok w.toText) (hw : Url.parse merged = .ok w)
    (text : merged.toList = parts.text) (beside : Reference.Beside base parts)
    (settled : base.IsSettled) : client.Stays base reference w.toText := by
  have hs := http_ne http
  have written := parse_written hw
  have made := beside_made beside text hw
  have scheme := beside_scheme beside http made
  have authority := beside_place settled beside made
  have place := Reference.url_places written (by rwa [scheme]) (by rwa [authority])
  rw [scheme, authority] at place
  have printable := toText_printable written
  obtain ⟨u, hu, host⟩ := beside_again beside text hw scheme hs authority ha
  obtain ⟨name, named⟩ := settled.named
  refine ⟨⟨_, place⟩, isOwnHost_leads ht hu ?_, resolve_absolute ?_⟩
  · have read : Http.hostName base = .ok name := by
      unfold Http.hostName
      rw [named]
      rfl
    have same : u.host = base.host := host.trans (authority_host written (parse_written hb) authority)
    exact (hasHost_congr same).mpr ⟨base, name, hb, read, read⟩
  · refine (Reference.isAbsolute_places place printable ?_).mpr settled.plain
    exact mt String.toList_eq_nil_iff.mp ha

/-- If it keeps to the base URL, the place of the base URL is settled. -/
theorem stays_settled {client : Client} {base w : Url} {reference merged : String} {parts : Parts}
    (hb : Url.parse client.baseUrl = .ok base)
    (http : base.scheme = "http" ∨ base.scheme = "https") (host : base.host ≠ "")
    (hw : Url.parse merged = .ok w) (text : merged.toList = parts.text)
    (beside : Reference.Beside base parts) (stays : client.Stays base reference w.toText) :
    base.IsSettled := by
  have hs := http_ne http
  have ha := Reference.host_authority host
  have written := parse_written hw
  have made := beside_made beside text hw
  have scheme := beside_scheme beside http made
  rw [← scheme] at hs
  have printable := toText_printable written
  obtain ⟨tail, place⟩ := stays.place
  have authority : w.authority = base.authority := by
    -- The host keeps the authority from being empty, so it can be told from the text.
    have filled := Reference.host_authority (beside_host (parse_written hb) beside made host)
    have own := (Reference.cut_places (Reference.url_places written hs filled)).2
    rw [(Reference.cut_places place).2] at own
    exact (String.toList_inj.mp own).symm
  obtain ⟨_, _, _, _, base', name, hb', -, named⟩ := isOwnHost_true stays.own
  cases hb.symm.trans hb'
  exact ⟨place_again beside made ha authority,
    resolve_checks hb http ha place printable stays.again, name, mapError_ok named⟩

/-! ## All references without a scheme -/

/-- A reference without a scheme is resolved beside the base URL and keeps to it, just if the
place of the base URL is settled. Only behind a lone colon does it go elsewhere: there a scheme
or an authority is followed. -/
theorem resolve_anchored {client : Client} {base : Url} {reference address : String}
    (hb : Url.parse client.baseUrl = .ok base)
    (http : base.scheme = "http" ∨ base.scheme = "https") (ha : base.authority ≠ "")
    (visible : ∀ c ∈ reference.toList, 0x20 < c.toNat)
    (schemeless : ¬NamesScheme (reference.toList.dropWhile (· = '/')))
    (resolved : client.resolve reference = .ok address) :
    (¬Strays (reference.toList.dropWhile (· = '/')) →
        (base.IsSettled → client.Stays base reference address) ∧
          (base.host ≠ "" → client.Stays base reference address → base.IsSettled)) ∧
      ∀ behind, reference.toList.dropWhile (· = '/') = ':' :: behind →
        ∃ w, address = w.toText ∧ Follows base behind w := by
  have written := parse_written hb
  obtain ⟨w, hj, rfl⟩ := resolve_joins hb visible schemeless resolved
  have list : (dropLeading (· = '/') reference).toList = reference.toList.dropWhile (· = '/') :=
    String.toList_ofList
  constructor
  · intro stays
    have rootless : (reference.toList.dropWhile (· = '/')).head? ≠ some '/' := by
      intro slash
      have stopped := List.head?_dropWhile_not (· = '/') reference.toList
      rw [slash] at stopped
      simp at stopped
    rw [← list] at schemeless rootless stays
    obtain ⟨merged, parts, hw, text, beside⟩ :=
      join_beside written http ha schemeless rootless stays hj
    exact ⟨settled_stays hb http ha resolved hw text beside,
      fun host => stays_settled hb http host hw text beside⟩
  · intro behind whole
    rw [← list] at whole
    exact ⟨w, rfl, join_follows written http ha whole hj⟩

/-- Beside the standard base URL, slashes in front of a host keep to it, and a colon in front of
them does not. -/
theorem resolve_anchored_slashes :
    (Client.ofSettings .standard).Stays standardBase "//evil.example/../x\\y"
        "https://management.azure.com/x\\y" ∧
      (Client.ofSettings .standard).resolve "://evil.example/x" = .ok "https://evil.example/x" ∧
      ∃ w : Url, "https://evil.example/x" = w.toText ∧ w.scheme = "https" ∧
        w.host = "evil.example" := by
  have settled : standardBase.IsSettled :=
    ⟨⟨standardBase, ok_of_toOption (by decide +kernel), rfl⟩, ok_of_toOption (by decide +kernel),
      "management.azure.com", rfl⟩
  have visible (s : String) (all : s.toList.all (fun c => decide (0x20 < c.toNat)) = true) :
      ∀ c ∈ s.toList, 0x20 < c.toNat := fun c hc =>
    of_decide_eq_true (List.all_eq_true.mp all c hc)
  have kept : (Client.ofSettings .standard).resolve "//evil.example/../x\\y" =
      .ok "https://management.azure.com/x\\y" := ok_of_toOption (by decide +kernel)
  have led : (Client.ofSettings .standard).resolve "://evil.example/x" =
      .ok "https://evil.example/x" := ok_of_toOption (by decide +kernel)
  refine ⟨?_, led, ?_⟩
  · have anchored := resolve_anchored standard_base (.inr rfl) (by decide)
      (visible "//evil.example/../x\\y" (by decide))
      (cutScheme?_eq_none.mp (by decide)) kept
    refine (anchored.1 ?_).1 settled
    rintro ⟨behind, whole, -⟩
    have first := congrArg List.head? whole
    rw [List.head?_cons] at first
    revert first
    decide
  · obtain ⟨w, text, follows⟩ := (resolve_anchored standard_base (.inr rfl) (by decide)
      (visible "://evil.example/x" (by decide))
      (cutScheme?_eq_none.mp (by decide)) led).2 "//evil.example/x".toList rfl
    obtain ⟨host, scheme⟩ := follows.host ⟨"", "", "evil.example", none, "/x", none, none⟩
      (ok_of_toOption (by decide +kernel)) (by decide) (.inl rfl)
    refine ⟨w, text, scheme rfl, ?_⟩
    have lower : lowerAscii "evil.example" = "evil.example" := by decide +kernel
    rwa [lower, or_self] at host

end LakeAdmin
