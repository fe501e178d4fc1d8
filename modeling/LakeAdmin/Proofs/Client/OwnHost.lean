import LakeAdmin.Proofs.Client.Resolve
import LakeAdmin.Proofs.Url.Front

/-!
Whose host an address names. The check of an address resolves it, while its request reads
it as it is. For an absolute address both come to the same host. Any other address that
passes the check names no host at all when it is read as it is, or the host of the base
URL but for the case of letters.
-/

namespace LakeAdmin

open Http Text Url

def Client.HasHost (client : Client) (url : Url) : Prop :=
  ∃ base host, Url.parse client.baseUrl = .ok base ∧ Http.hostName url = .ok host ∧
    Http.hostName base = .ok host

theorem hasHost_congr {client : Client} {u v : Url} (h : u.host = v.host) :
    client.HasHost u ↔ client.HasHost v := by
  have same : Http.hostName u = Http.hostName v := by
    unfold Http.hostName Url.hostName
    rw [h]
  unfold Client.HasHost
  rw [same]

/-! ## The check -/

theorem hostAt_ok {address host : String} (h : Client.hostAt address = .ok host) :
    ∃ u, Url.parse address = .ok u ∧ Http.hostName u = .ok host := by
  obtain ⟨u, hu, named⟩ := bind_ok h
  exact ⟨u, mapError_ok hu, named⟩

theorem hostAt_parsed {address : String} {u : Url} (hu : Url.parse address = .ok u) :
    Client.hostAt address = Http.hostName u := by
  unfold Client.hostAt
  rw [hu]
  rfl

theorem sharesHost_ok {client : Client} {reference : String} {own : Bool}
    (h : client.sharesHost reference = .ok own) :
    ∃ address u base host other, client.resolve reference = .ok address ∧
      Url.parse address = .ok u ∧ Http.hostName u = .ok host ∧
      Url.parse client.baseUrl = .ok base ∧ Http.hostName base = .ok other ∧
      own = (host == other) := by
  obtain ⟨address, ha, h⟩ := bind_ok h
  obtain ⟨host, hh, h⟩ := bind_ok h
  obtain ⟨other, ho, h⟩ := bind_ok h
  obtain ⟨u, hu, named⟩ := hostAt_ok hh
  obtain ⟨base, hb, named'⟩ := hostAt_ok ho
  cases h
  exact ⟨address, u, base, host, other, mapError_ok ha, hu, named, hb, named', rfl⟩

/-- What is resolved to a URL with the own host shares it. -/
theorem sharesHost_own {client : Client} {reference address : String} {u : Url}
    (ha : client.resolve reference = .ok address) (hu : Url.parse address = .ok u)
    (own : client.HasHost u) : client.sharesHost reference = .ok true := by
  obtain ⟨base, host, hb, read, named⟩ := own
  unfold Client.sharesHost
  rw [ha, hostAt_parsed hb, named]
  dsimp only [Except.mapError, bind, Except.bind]
  rw [hostAt_parsed hu, read]
  simp [pure, Except.pure]

theorem isOwnHost_ok {client : Client} {reference : String} {own : Bool}
    (h : client.isOwnHost reference = .ok own) :
    client.sharesHost reference = .ok own ∨
      own = false ∧ ∃ fault, client.sharesHost reference = .error (.badUrl fault) := by
  unfold Client.isOwnHost at h
  split at h
  · cases h
  · rename_i fault _ shares
    cases h
    exact .inr ⟨rfl, fault, shares⟩
  · exact .inl h

theorem isOwnHost_lost {client : Client} {reference : String} {failure : Failure}
    (h : client.isOwnHost reference = .error failure) :
    client.sharesHost reference = .error failure ∧
      ∀ fault, failure = .badUrl fault → ∃ inner, fault = .reference inner := by
  unfold Client.isOwnHost at h
  split at h
  · rename_i fault shares
    cases h
    exact ⟨shares, fun other same => ⟨fault, (Failure.badUrl.inj same).symm⟩⟩
  · cases h
  · rename_i other
    refine ⟨h, ?_⟩
    rintro fault rfl
    exact absurd h (other fault)

/-- What the check of an address says is whether the resolved URL has the host of the base
URL. -/
theorem isOwnHost_iff {client : Client} {address resolved : String} {u : Url} {own : Bool}
    (ha : client.resolve address = .ok resolved) (hu : Url.parse resolved = .ok u)
    (h : client.isOwnHost address = .ok own) : own = true ↔ client.HasHost u := by
  rcases isOwnHost_ok h with shares | ⟨rfl, fault, lost⟩
  · obtain ⟨address', u', base, host, other, ha', hu', read, hb, named, rfl⟩ := sharesHost_ok shares
    cases ha.symm.trans ha'
    cases hu.symm.trans hu'
    constructor
    · intro same
      rw [beq_iff_eq] at same
      exact ⟨base, host, hb, read, by rw [named, same]⟩
    · intro shared
      exact Except.ok.inj (shares.symm.trans (sharesHost_own ha hu shared))
  · refine iff_of_false Bool.false_ne_true fun shared => ?_
    cases lost.symm.trans (sharesHost_own ha hu shared)

theorem isOwnHost_true {client : Client} {address : String}
    (h : client.isOwnHost address = .ok true) :
    ∃ resolved u, client.resolve address = .ok resolved ∧ Url.parse resolved = .ok u ∧
      client.HasHost u := by
  rcases isOwnHost_ok h with shares | ⟨no, -⟩
  · obtain ⟨resolved, u, base, host, other, ha, hu, -⟩ := sharesHost_ok shares
    exact ⟨resolved, u, ha, hu, (isOwnHost_iff ha hu h).mp rfl⟩
  · cases no

/-! ## Absolute addresses -/

/-- What has an authority but no scheme starts with a colon or a slash. -/
theorem cut_schemeless {l : List Char} (scheme : (cut l).scheme = [])
    (authority : (cut l).authority ≠ []) :
    cutScheme? l = none ∧ ∃ c rest, l = c :: rest ∧ (c = '/' ∨ c = ':') := by
  have marked : ∃ rest, (cutScheme l).2 = '/' :: '/' :: rest := by
    unfold cut at authority
    dsimp only at authority
    unfold cutAuthority at authority
    split at authority
    · rename_i rest whole
      exact ⟨rest, whole⟩
    · exact absurd rfl authority
  obtain ⟨rest, after⟩ := marked
  rcases cutScheme_cases l with ⟨valid, -⟩ | ⟨-, none, same | whole⟩
  · have empty : (cutScheme l).1 = [] := scheme
    rw [empty] at valid
    cases valid
  · exact ⟨none, '/', '/' :: rest, by rw [← same, after], .inl rfl⟩
  · exact ⟨none, ':', _, whole, .inr rfl⟩

/-- An absolute address that names a host when it is read names a scheme as well. -/
theorem absolute_scheme {address : String} {u : Url}
    (absolute : Reference.isAbsolute address = true) (hu : Url.parse address = .ok u)
    (host : u.host ≠ "") : u.scheme ≠ "" := by
  intro empty
  obtain ⟨made, -, -, printable⟩ := parse_ok hu
  have scheme : (cut address.toList).scheme = [] := by
    refine Decidable.byContradiction fun some => ?_
    have named := made.scheme_eq
    rw [empty] at named
    refine Reference.lowerAscii_ne (fun none => some ?_) named.symm
    exact String.ofList_eq_empty_iff.mp none
  have authority : (cut address.toList).authority ≠ [] := by
    intro none
    have read := made.host
    rw [none] at read
    exact host (Except.ok.inj read).symm
  obtain ⟨none, c, rest, whole, mark⟩ := cut_schemeless scheme authority
  have cleaned : Reference.clean address.toList = address.toList := by
    refine Reference.clean_printable printable fun d hd => ?_
    rw [whole] at hd
    cases hd
    rcases mark with rfl | rfl <;> decide
  unfold Reference.isAbsolute at absolute
  split at absolute
  · rename_i r hr
    have bare : r.scheme = "" := by
      unfold Reference.split at hr
      rw [cleaned] at hr
      dsimp only at hr
      rw [none] at hr
      dsimp only at hr
      obtain ⟨_, -, hr⟩ := bind_ok hr
      cases hr
      rfl
    simp [bare] at absolute
  · cases absolute

/-- The request for an absolute address goes to the host that was checked. -/
theorem isOwnHost_absolute {client : Client} {address : String}
    {params : Option (List (String × String))} {url : Url} {own : Bool}
    (absolute : Reference.isAbsolute address = true) (hu : requestUrl address params = .ok url)
    (h : client.isOwnHost address = .ok own) : own = true ↔ client.HasHost url := by
  have resolved : client.resolve address = .ok address := resolve_absolute absolute
  obtain ⟨u, hp, cases⟩ := requestUrl_ok hu
  rw [isOwnHost_iff resolved hp h]
  refine hasHost_congr ?_
  rcases cases with ⟨-, same⟩ | ⟨relative, -, -, hostless⟩
  · rw [same]
  · rw [hostless]
    refine Decidable.byContradiction fun host => ?_
    have scheme := absolute_scheme absolute hp host
    simp [Url.isAbsolute, scheme, host] at relative

/-! ## All addresses -/

/-- No request for an address that passed the check names another host. -/
theorem isOwnHost_confined {client : Client} {address : String}
    {params : Option (List (String × String))} {url : Url}
    (hu : requestUrl address params = .ok url) (h : client.isOwnHost address = .ok true) :
    url.host = "" ∨ ∃ host, (host = url.host ∨ host = lowerAscii url.host) ∧
      client.HasHost { url with host := host } := by
  obtain ⟨u, hp, cases⟩ := requestUrl_ok hu
  rcases cases with ⟨complete, same⟩ | ⟨-, -, -, hostless⟩
  · right
    have host : url.host = u.host := by rw [same]
    obtain ⟨resolved, v, ha, hv, own⟩ := isOwnHost_true h
    refine ⟨v.host, ?_, (hasHost_congr rfl).mpr own⟩
    rw [host]
    rcases resolve_ok ha with ⟨-, rfl⟩ | ⟨-, base, joined, -, hj, rfl⟩
    · cases hp.symm.trans hv
      exact .inl rfl
    · simp only [Url.isAbsolute, Bool.and_eq_true, decide_eq_true_eq] at complete
      obtain ⟨made, scheme, -⟩ := parse_ok hp
      have named : NamesScheme address.toList := by
        rcases cutScheme_cases address.toList with ⟨valid, whole, -⟩ | ⟨none, -⟩
        · exact ⟨_, _, valid, whole⟩
        · refine absurd ?_ complete.1
          rw [made.scheme_eq, show (cut address.toList).scheme = [] from none]
          simp [lowerAscii]
      rw [dropLeading_named named] at hj
      exact Reference.join_host (parse_written hp) complete.1 complete.2 hp hj hv
  · exact .inl hostless

/-! ## References -/

/-- What is resolved and names a host names a scheme as well. -/
theorem resolved_scheme {client : Client} {base u : Url} {reference address : String}
    (hb : Url.parse client.baseUrl = .ok base) (root : base.IsRoot)
    (ha : client.resolve reference = .ok address) (hu : Url.parse address = .ok u)
    (host : u.host ≠ "") : u.scheme ≠ "" := by
  rcases resolve_ok ha with ⟨absolute, rfl⟩ | ⟨-, base', joined, hb', hj, rfl⟩
  · exact absolute_scheme absolute hu host
  · cases hb.symm.trans hb'
    have scheme := join_scheme (parse_written hb) root hj
    have written : joined.Written := by
      unfold Url.join at hj
      obtain ⟨_, -, hj⟩ := bind_ok hj
      obtain ⟨_, -, hj⟩ := bind_ok hj
      exact parse_written hj
    obtain ⟨rest, whole⟩ := toText_scheme scheme
    exact parse_scheme (scheme_of_written written scheme) whole hu

/-- A URL with the host of a root names a host. -/
theorem hasHost_ne {client : Client} {base u : Url}
    (hb : Url.parse client.baseUrl = .ok base) (root : base.IsRoot) (own : client.HasHost u) :
    u.host ≠ "" := by
  obtain ⟨base', host, hb', hu, ho⟩ := own
  cases hb.symm.trans hb'
  intro empty
  have none : Http.hostName u = .ok "" := by
    unfold Http.hostName Url.hostName
    rw [empty]
    rfl
  cases none.symm.trans hu
  exact hostName_ne (mapError_ok ho) root.host rfl

/-- A reference that passed the check can be asked for, and the request goes to the own
host. -/
theorem isOwnHost_asks {client : Client} {base : Url} {reference : String}
    (hb : Url.parse client.baseUrl = .ok base) (root : base.IsRoot)
    (h : client.isOwnHost reference = .ok true) :
    ∃ address url, client.resolve reference = .ok address ∧
      requestUrl address none = .ok url ∧ client.HasHost url := by
  obtain ⟨address, u, ha, hu, own⟩ := isOwnHost_true h
  have host := hasHost_ne hb root own
  have scheme := resolved_scheme hb root ha hu host
  refine ⟨address, u, ha, ?_, own⟩
  have absolute : u.isAbsolute = true := by simp [Url.isAbsolute, scheme, host]
  unfold requestUrl
  rw [hu]
  dsimp only [bind, Except.bind]
  rw [if_pos absolute]
  rfl

/-- Why it cannot be told whether a reference points at the own host: it cannot be joined to
the base URL, or the name of the host it leads to cannot be read. -/
inductive Client.Unreadable (client : Client) (reference : String) : Failure → Prop
  | reference {fault : ReferenceFault} (h : client.resolve reference = .error (.reference fault)) :
      Client.Unreadable client reference (.badUrl (.reference fault))
  | host {address : String} {u : Url} {fault : HostName.NameFault}
      (resolved : client.resolve reference = .ok address) (parsed : Url.parse address = .ok u)
      (h : u.hostName = .error fault) : Client.Unreadable client reference (.badHostName fault)

/-- The check of a reference has no answer for these reasons alone, where the name of the own
host can be read. -/
theorem isOwnHost_error {client : Client} {base : Url} {reference name : String}
    {failure : Failure} (hb : Url.parse client.baseUrl = .ok base)
    (named : Http.hostName base = .ok name) (h : client.isOwnHost reference = .error failure) :
    client.Unreadable reference failure := by
  obtain ⟨lost, joins⟩ := isOwnHost_lost h
  have known : Client.hostAt client.baseUrl = .ok name := by rw [hostAt_parsed hb, named]
  rcases bind_error lost with nowhere | ⟨address, ha, lost⟩
  · obtain ⟨fault, ha, rfl⟩ := mapError_error nowhere
    obtain ⟨fault, rfl⟩ := joins fault rfl
    exact .reference ha
  · have ha := mapError_ok ha
    rcases bind_error lost with unread | ⟨host, -, lost⟩
    · rcases bind_error unread with noUrl | ⟨u, hu, unread⟩
      · obtain ⟨fault, hp, rfl⟩ := mapError_error noUrl
        obtain ⟨fault, rfl⟩ := joins fault rfl
        exact absurd hp parse_fault
      · obtain ⟨fault, hn, rfl⟩ := mapError_error unread
        exact .host ha (mapError_ok hu) hn
    · rw [known] at lost
      cases lost

/-- The check of what is resolved to an address with the own host passes. -/
theorem isOwnHost_leads {client : Client} {reference address : String} {u : Url}
    (ha : client.resolve reference = .ok address) (hu : Url.parse address = .ok u)
    (own : client.HasHost u) : client.isOwnHost reference = .ok true := by
  unfold Client.isOwnHost
  rw [sharesHost_own ha hu own]

/-- The check of an absolute address with the own host passes. -/
theorem isOwnHost_own {client : Client} {address : String} {u : Url}
    (absolute : Reference.isAbsolute address = true) (hu : Url.parse address = .ok u)
    (own : client.HasHost u) : client.isOwnHost address = .ok true :=
  isOwnHost_leads (resolve_absolute absolute) hu own

end LakeAdmin
