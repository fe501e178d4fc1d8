import LakeAdmin.Proofs.Client.Request
import LakeAdmin.Proofs.Client.Resolve
import LakeAdmin.Proofs.Client.Segments
import LakeAdmin.Proofs.Url.Again

/-!
When a request for a path is really sent. The base URL has to be one that is read again as
it is, and no text may be too long; then nothing on the way to the service fails, and what
comes of the request is settled by the next reply alone.
-/

namespace LakeAdmin

open Http Text Url

/-! ## The URL of the request -/

/-- Every part of a URL with a scheme, but for the query, is as long as its text at most. -/
theorem checkLengths_query {u : Url} {query : String} (hs : u.scheme ≠ "")
    (ha : u.authority ≠ "") (bare : u.fragment = none) (short : u.toText.length ≤ lengthLimit)
    (fits : query.length ≤ lengthLimit) :
    u.withQuery query = .ok { u with query := some query } := by
  have whole := toText_length hs ha
  have limits : ∀ part ∈ ({ u with query := some query } : Url).sized,
      ¬lengthLimit < part.2.length := by
    have authority : ({ u with query := some query } : Url).authority = u.authority := rfl
    unfold Url.sized
    rw [authority]
    simp only [List.mem_cons, List.not_mem_nil, or_false, bare, Option.getD_some,
      Option.getD_none]
    rintro part (rfl | rfl | rfl | rfl | rfl)
    · dsimp only
      omega
    · dsimp only
      omega
    · dsimp only
      omega
    · dsimp only
      omega
    · decide
  have none : ({ u with query := some query } : Url).sized.find?
      (fun part => decide (lengthLimit < part.2.length)) = none := by
    rw [List.find?_eq_none]
    intro part hm
    simpa using limits part hm
  unfold Url.withQuery Url.checkLengths
  rw [none]

theorem beside_absolute {base : Url} (root : base.IsRoot) (path : String) :
    (base.beside path).isAbsolute = true := by
  unfold Url.isAbsolute
  simp only [Bool.and_eq_true, decide_eq_true_eq]
  exact ⟨root.scheme_ne, root.host⟩

/-- A path below the base URL of a client, all of whose texts are short enough. -/
structure Client.Reaches (client : Client) (base : Url) (path : String) : Prop where
  parsed : Url.parse client.baseUrl = .ok base
  root : base.IsRoot
  stable : base.IsStable
  below : IsBelow path
  short : base.toText.length + path.length + 1 ≤ lengthLimit

/-- The URL of a request for a path that is reached: the path beside the base URL, with the
parameters as its query. -/
theorem reaches_url {client : Client} {base : Url} {path : String}
    (h : client.Reaches base path) {pairs : List (String × String)}
    (fits : (Form.encode pairs).length ≤ lengthLimit) :
    client.resolve path = .ok (base.beside path).toText ∧
      requestUrl (base.beside path).toText (some pairs) =
        .ok { base.beside path with query := some (Form.encode pairs) } := by
  have written := parse_written h.parsed
  have place := Reference.host_authority h.root.host
  obtain ⟨inner, folder⟩ := root_folder h.parsed h.root
  obtain ⟨joined, again⟩ := join_ok h.stable written h.root folder h.below h.short
  have room := beside_length written h.root folder h.below
  constructor
  · unfold Client.resolve
    rw [isAbsolute_relative h.below.toIsRelative, if_neg Bool.false_ne_true, h.parsed,
      dropLeading_relative h.below.toIsRelative]
    dsimp only [bind, Except.bind]
    rw [joined]
    rfl
  · unfold requestUrl
    rw [again]
    dsimp only [bind, Except.bind]
    rw [if_pos (beside_absolute h.root path)]
    exact checkLengths_query h.root.scheme_ne place rfl (Nat.le_trans room h.short) fits

/-! ## The request -/

/-- A client that names a version, of moderate length, and has no need of tokens. -/
structure Client.IsOpen (client : Client) : Prop where
  version : client.apiVersion ≠ ""
  fits : (Form.encode [("api-version", client.apiVersion)]).length ≤ lengthLimit
  free : client.tokens = none

/-- Nothing keeps back a request of an open client for a path that is reached, with parameters of
moderate length. -/
theorem reaches_unsent {client : Client} {base : Url} {path : String} {json : Json}
    {body : Body} {failure : Failure} {pairs : List (String × String)}
    (h : client.Reaches base path) (ready : client.IsOpen)
    (fits : (Form.encode pairs).length ≤ lengthLimit)
    (value : Client.bodyOf json = .ok body) :
    ¬client.Unsent path (some pairs) json failure := by
  obtain ⟨resolved, url⟩ := reaches_url h fits
  intro unsent
  cases unsent with
  | version _ missing => exact ready.version missing
  | reference fault =>
    rw [resolved] at fault
    cases fault
  | place found fault =>
    cases resolved.symm.trans found
    rw [url] at fault
    cases fault
  | value fault =>
    rw [value] at fault
    cases fault
  | token _ tokenless =>
    have some := tokenless.1
    rw [ready.free] at some
    cases some

/-- A request for a path that is reached is sent, to an absolute URL, and the next reply
says what comes of it. -/
theorem send_reaches {client : Client} {base : Url} {path : String} {json : Json}
    {body : Body} (h : client.Reaches base path) (ready : client.IsOpen)
    (value : Client.bodyOf json = .ok body) (method : String) (extra : Headers)
    (world : World) :
    ∃ request, request.url.isAbsolute = true ∧
      ((client.send method path [] json extra).run world).1 = outcome request world.replies ∧
      ((client.send method path [] json extra).run world).2.deeds =
        world.deeds ++ [.asked request] ∧
      ((client.send method path [] json extra).run world).2.replies = world.replies.tail := by
  have turn := send_turn client method path [] json extra world
  generalize ((client.send method path [] json extra).run world).1 = result at turn ⊢
  generalize ((client.send method path [] json extra).run world).2 = after at turn ⊢
  cases turn with
  | unsent why deeds left => exact absurd why (reaches_unsent h ready ready.fits value)
  | @sent request left _ asks leaves deeds replies =>
    have same : left = world.replies := by
      refine leaves.resolve_right fun fetches => ?_
      have fetching := fetches.1
      unfold Client.fetchesTokens at fetching
      rw [ready.free] at fetching
      cases fetching
    obtain ⟨resolved, place⟩ := reaches_url h ready.fits
    obtain ⟨address, found, url⟩ := asks.url_eq
    cases resolved.symm.trans found
    have same_url := Except.ok.inj (place.symm.trans url)
    rw [same] at replies
    rw [same]
    refine ⟨request, ?_, rfl, deeds, replies⟩
    rw [← same_url]
    exact beside_absolute h.root path

/-- A response that sends nobody elsewhere answers a request for a path that is reached. -/
theorem send_answered {client : Client} {base : Url} {path : String} {json : Json}
    {body : Body} (h : client.Reaches base path) (ready : client.IsOpen)
    (value : Client.bodyOf json = .ok body) (method : String) (extra : Headers)
    {world : World} {response : Response} {rest : List Reply}
    (replies : world.replies = .response response :: rest) (stays : response.redirects = false) :
    ∃ asked after, (client.send method path [] json extra).run world =
      (.ok { response with request := some asked }, after) ∧ after.replies = rest := by
  obtain ⟨request, absolute, sent, -, left⟩ := send_reaches h ready value method extra world
  rcases ran : (client.send method path [] json extra).run world with ⟨result, after⟩
  rw [ran] at sent left
  rw [replies] at sent left
  have answered : result =
      .ok { response with request := some (request.method, request.url.toText) } := by
    refine Eq.trans sent ?_
    show accept request response = _
    have stays' : Response.redirects
        { response with request := some (request.method, request.url.toText) } = false := stays
    unfold accept
    rw [absolute]
    dsimp only
    rw [stays']
    rfl
  subst answered
  exact ⟨_, after, rfl, left⟩

/-- A response that sends the caller on to no place fails a request for a path that is
reached. -/
theorem send_lost {client : Client} {base : Url} {path : String} {json : Json} {body : Body}
    (h : client.Reaches base path) (ready : client.IsOpen)
    (value : Client.bodyOf json = .ok body) (method : String) (extra : Headers)
    {world : World} {response : Response} {rest : List Reply} {location : String}
    {fault : UrlFault} (replies : world.replies = .response response :: rest)
    (moves : response.redirects = true) (located : response.headers.get? "Location" = some location)
    (nowhere : Url.parse location = .error fault) :
    ((client.send method path [] json extra).run world).1 = .error (.badRedirect fault) := by
  obtain ⟨request, absolute, sent, -⟩ := send_reaches h ready value method extra world
  rw [sent, replies]
  have moves' : Response.redirects
      { response with request := some (request.method, request.url.toText) } = true := moves
  show accept request response = _
  unfold accept redirectTarget
  dsimp only
  rw [absolute, moves', located, Option.getD_some, nowhere]
  rfl

/-! ## The standard client -/

def standardBase : Url := ⟨"https", "", "management.azure.com", none, "/", none, none⟩

theorem standard_open : (Client.ofSettings .standard).IsOpen where
  version := by decide
  fits := by decide
  free := rfl

theorem standard_base : Url.parse (Client.ofSettings .standard).baseUrl = .ok standardBase :=
  ok_of_toOption (by decide +kernel)

/-- With the standard settings, a path that is not too long is reached. -/
theorem standard_reaches {path : String} (below : IsBelow path)
    (short : path.length + 30 ≤ lengthLimit) :
    (Client.ofSettings .standard).Reaches standardBase path where
  parsed := standard_base
  root := ofOptions_root standard_base (.inr rfl) (by decide) rfl rfl
  stable := ⟨ok_of_toOption (by decide +kernel), ok_of_toOption (by decide +kernel)⟩
  below := below
  short := by
    have length : standardBase.toText.length = 29 := by decide +kernel
    omega

/-- So is the path of sound segments whose names have values. -/
theorem standard_place {segments : List LakeAdmin.Path.Segment} {identity : Option Identity}
    {query : Option QueryOptions} {extra : Client.PathValues} {path : String}
    (sound : LakeAdmin.Path.isSound false segments = true) (nonempty : segments ≠ [])
    (placed : (Client.ofSettings .standard).operationPath segments identity query extra =
      .ok path)
    (short : (Client.pathText (some ((Client.ofSettings .standard).scope identity)) extra
      segments).length + 30 ≤ lengthLimit) :
    (Client.ofSettings .standard).Reaches standardBase path := by
  obtain ⟨problems, rfl⟩ := buildPath_ok (sound_plain sound) placed
  exact standard_reaches (pathText_below sound nonempty (nameValue_ne problems)) short

end LakeAdmin
