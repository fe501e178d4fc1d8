import LakeAdmin.Client.Basic
import LakeAdmin.Proofs.Http.Exchange
import LakeAdmin.Proofs.Url.Host

/-!
What one request of a client does. Either it fails before anything is sent to the
service, or exactly one request is sent, and what comes of it is settled by the next
reply. `Turn` says this once; everything that sends more than one request is a chain of
turns.
-/

namespace LakeAdmin

open Http

/-- Whether the client fetches its tokens, with replies off the same queue. -/
def Client.fetchesTokens (client : Client) : Bool :=
  match client.tokens with
  | some (.service _) => true
  | _ => false

/-- The replies that are left when a request is sent: all that were there, but for one
that a request for a token may have taken. -/
def Client.Leaves (client : Client) (before left : List Reply) : Prop :=
  left = before ∨ (client.fetchesTokens = true ∧ left = before.tail)

theorem leaves_length {client : Client} {before left : List Reply}
    (h : client.Leaves before left) : left.length ≤ before.length := by
  rcases h with rfl | ⟨_, rfl⟩
  · exact Nat.le_refl _
  · simp

/-- A request is the one for a reference: it has the method, goes to the place that the
reference denotes, with these parameters and no others, and carries the value. One with
parameters names a version. -/
structure Client.Asks (client : Client) (method reference : String)
    (params : Option (List (String × String))) (json : Json) (request : Request) : Prop where
  version : params.isSome → client.apiVersion ≠ ""
  method_eq : request.method = method
  url_eq : ∃ address, client.resolve reference = .ok address ∧
    requestUrl address params = .ok request.url
  body_eq : Client.bodyOf json = .ok request.body

/-- There is no token for an address: whether it is on the own host cannot be told, or the
source of the tokens fails. -/
def Client.Tokenless (client : Client) (address : String) (failure : Failure) : Prop :=
  client.tokens.isSome ∧
    ∃ before after, (client.authorization address).run before = (.error failure, after)

/-- Why a request is not sent: there is no version to name, its reference or its place is
no URL, its value has no standard text, or there is no token for it. -/
inductive Client.Unsent (client : Client) (reference : String)
    (params : Option (List (String × String))) (json : Json) : Failure → Prop
  | version (hp : params.isSome) (hv : client.apiVersion = "") :
      Client.Unsent client reference params json (.invalidArgument [.missing "api_version"])
  | reference {fault : UrlFault} (h : client.resolve reference = .error fault) :
      Client.Unsent client reference params json (.badUrl fault)
  | place {address : String} {fault : UrlFault} (h : client.resolve reference = .ok address)
      (hu : requestUrl address params = .error fault) :
      Client.Unsent client reference params json (.badUrl fault)
  | value {failure : Failure} (h : Client.bodyOf json = .error failure) :
      Client.Unsent client reference params json failure
  | token {address : String} {failure : Failure} (h : client.resolve reference = .ok address)
      (ht : client.Tokenless address failure) :
      Client.Unsent client reference params json failure

/-- What becomes of a world in one turn, and what comes of the turn. -/
inductive Client.Turn (client : Client) (method reference : String)
    (params : Option (List (String × String))) (json : Json) (before : World) :
    Except Failure Response → World → Prop
  | unsent {failure : Failure} {after : World}
      (why : client.Unsent reference params json failure)
      (deeds : after.deeds = before.deeds)
      (left : client.Leaves before.replies after.replies) :
      Client.Turn client method reference params json before (.error failure) after
  | sent {request : Request} {left : List Reply} {after : World}
      (asks : client.Asks method reference params json request)
      (leaves : client.Leaves before.replies left)
      (deeds : after.deeds = before.deeds ++ [.asked request])
      (replies : after.replies = left.tail) :
      Client.Turn client method reference params json before (outcome request left) after

/-! ## Tokens -/

/-- What the search for a token may change: nothing, or what one exchange of a form
changes, and the tokens that are kept. -/
inductive TokenErrand (before : World) : World → Prop
  | none : TokenErrand before before
  | exchanged {request : Request} {kept : List HeldToken} (form : request.body.isForm = true) :
      TokenErrand before { before.spend request with tokens := kept }

theorem fetch_errand (credentials : Token.Credentials) (scope : String) (now : Binary64)
    (world : World) :
    TokenErrand world ((Token.fetch credentials scope now).run world).2 := by
  unfold Token.fetch
  cases hu : requestUrl (Token.address credentials) none with
  | error fault =>
    rw [Action.run_bind_error (Action.run_ofExcept_error _ _ _)]
    exact .none
  | ok url =>
    rw [Action.run_bind_ok (Action.run_ofExcept_ok _ _ _), Action.run_bind, exchange_run]
    cases outcome _ world.replies with
    | error failure => exact .exchanged rfl
    | ok response =>
      simp only
      cases Token.ofAnswer url.toText response with
      | error fault =>
        rw [Action.run_bind_error (Action.run_ofExcept_error _ _ _)]
        exact .exchanged rfl
      | ok found =>
        rw [Action.run_bind_ok (Action.run_ofExcept_ok _ _ _)]
        obtain ⟨token, seconds⟩ := found
        simp only
        cases Token.expiry now seconds with
        | error fault =>
          rw [Action.run_bind_error (Action.run_ofExcept_error _ _ _)]
          exact .exchanged rfl
        | ok expiresAt =>
          rw [Action.run_bind_ok (Action.run_ofExcept_ok _ _ _),
            Action.run_bind_ok (Action.run_modify _ _)]
          exact .exchanged rfl

theorem obtain_errand (credentials : Token.Credentials) (scope : String) (world : World) :
    TokenErrand world ((Token.obtain credentials scope).run world).2 := by
  unfold Token.obtain
  rw [Action.run_bind_ok (Action.run_get _)]
  cases Token.held? world scope with
  | none => exact fetch_errand _ _ _ _
  | some held =>
    simp only
    split
    · exact .none
    · exact fetch_errand _ _ _ _

theorem next_errand (source : TokenSource) (world : World) :
    TokenErrand world (source.next.run world).2 := by
  cases source with
  | fixed token => exact .none
  | service credentials => exact obtain_errand _ _ _

theorem errand_deeds {before after : World} (h : TokenErrand before after) :
    after.deeds = before.deeds := by
  cases h with
  | none => rfl
  | exchanged form => exact deeds_spend_form form before

theorem errand_leaves {client : Client} {before after : World}
    (hc : client.fetchesTokens = true) (h : TokenErrand before after) :
    client.Leaves before.replies after.replies := by
  cases h with
  | none => exact .inl rfl
  | exchanged form => exact .inr ⟨hc, rfl⟩

/-! ## The headers -/

/-- What the search for headers may change: the log, the count of ids, and what a search
for a token changes. -/
structure Client.Prepares (client : Client) (before after : World) : Prop where
  deeds : after.deeds = before.deeds
  leaves : client.Leaves before.replies after.replies

theorem authorization_prepares (client : Client) (address : String) (world : World) :
    client.Prepares world ((client.authorization address).run world).2 := by
  unfold Client.authorization
  cases ht : client.tokens with
  | none => exact ⟨rfl, .inl rfl⟩
  | some source =>
    simp only
    cases client.isOwnHost address with
    | error failure =>
      rw [Action.run_bind_error (Action.run_ofExcept_error _ _ _)]
      exact ⟨rfl, .inl rfl⟩
    | ok own =>
      rw [Action.run_bind_ok (Action.run_ofExcept_ok _ _ _)]
      cases own with
      | false => exact ⟨deeds_noted _ _, .inl rfl⟩
      | true =>
        have hn := next_errand source world
        have hl : client.Leaves world.replies (source.next.run world).2.replies := by
          cases source with
          | fixed token => exact .inl rfl
          | service credentials => exact errand_leaves (by simp [Client.fetchesTokens, ht]) hn
        simp only [↓reduceIte, Action.run_bind]
        rcases hr : source.next.run world with ⟨_ | _, after⟩ <;>
          rw [hr] at hn hl <;> exact ⟨errand_deeds hn, hl⟩

theorem headers_run (client : Client) (address : String) (extra : Headers) (world : World) :
    (client.headers address extra).run world =
      (((client.authorization address).run { world with ids := world.ids + 1 }).1.map
        (client.headersOf (Action.idText world.ids) · extra),
        ((client.authorization address).run { world with ids := world.ids + 1 }).2) := by
  unfold Client.headers
  have hi : Action.freshId.run world =
      (.ok (Action.idText world.ids), { world with ids := world.ids + 1 }) := by
    simp [Action.freshId, Action.run_bind, Except.map]
  rw [Action.run_bind_ok hi, Action.run_bind]
  rcases (client.authorization address).run { world with ids := world.ids + 1 } with ⟨_ | _, _⟩ <;>
    rfl

theorem headers_prepares (client : Client) (address : String) (extra : Headers) (world : World) :
    client.Prepares world ((client.headers address extra).run world).2 := by
  rw [headers_run]
  have h := authorization_prepares client address { world with ids := world.ids + 1 }
  exact ⟨h.deeds, h.leaves⟩

theorem authorization_error {client : Client} {address : String} {failure : Failure}
    {before after : World}
    (h : (client.authorization address).run before = (.error failure, after)) :
    client.Tokenless address failure := by
  refine ⟨?_, before, after, h⟩
  cases ht : client.tokens with
  | none => simp [Client.authorization, ht] at h
  | some source => rfl

/-! ## One turn -/

theorem draft_ok {method address : String} {params : Option (List (String × String))}
    {json : Json} {headers : Headers} {request : Request}
    (h : Client.draft method address params json headers = .ok request) :
    request.method = method ∧ requestUrl address params = .ok request.url ∧
      Client.bodyOf json = .ok request.body ∧
      request.headers = (Client.withContentType request.body headers).withCredentials request.url := by
  obtain ⟨url, hu, h⟩ := Url.bind_ok h
  obtain ⟨body, hb, h⟩ := Url.bind_ok h
  obtain rfl := Except.ok.inj h
  dsimp only
  exact ⟨rfl, Url.mapError_ok hu, hb, rfl⟩

theorem draft_error {client : Client} {method reference address : String}
    {params : Option (List (String × String))} {json : Json} {headers : Headers}
    {failure : Failure} (ha : client.resolve reference = .ok address)
    (h : Client.draft method address params json headers = .error failure) :
    client.Unsent reference params json failure := by
  rcases Url.bind_error h with hu | ⟨url, -, h⟩
  · obtain ⟨fault, found, rfl⟩ := Url.mapError_error hu
    exact .place ha found
  · rcases Url.bind_error h with hb | ⟨body, -, h⟩
    · exact .value hb
    · cases h

theorem body_not_form {json : Json} {body : Body} (h : Client.bodyOf json = .ok body) :
    body.isForm = false := by
  unfold Client.bodyOf at h
  split at h
  · cases h; rfl
  · split at h
    · cases h; rfl
    · cases h

theorem request_turn {client : Client} {reference address : String}
    (ha : client.resolve reference = .ok address) (method : String)
    (params : Option (List (String × String))) (hv : params.isSome → client.apiVersion ≠ "")
    (json : Json) (extra : Headers) (world : World) :
    client.Turn method reference params json world
      ((client.request method address params json extra).run world).1
      ((client.request method address params json extra).run world).2 := by
  unfold Client.request
  have hp := headers_prepares client address extra world
  rw [Action.run_bind]
  rcases hh : (client.headers address extra).run world with ⟨failure | headers, ready⟩
  · rw [hh] at hp
    rw [headers_run] at hh
    rcases hr : (client.authorization address).run { world with ids := world.ids + 1 } with
      ⟨failure' | own, after⟩
    · rw [hr] at hh
      cases hh
      exact .unsent (.token ha (authorization_error hr)) hp.deeds hp.leaves
    · rw [hr] at hh
      cases hh
  · rw [hh] at hp
    simp only
    cases hd : Client.draft method address params json headers with
    | error failure =>
      rw [Action.run_bind_error (Action.run_ofExcept_error _ _ _)]
      exact .unsent (draft_error ha hd) hp.deeds hp.leaves
    | ok request =>
      obtain ⟨hm, hu, hb, -⟩ := draft_ok hd
      have asks : client.Asks method reference params json request :=
        ⟨hv, hm, ⟨address, ha, hu⟩, hb⟩
      have deeds : (ready.spend request).deeds = world.deeds ++ [.asked request] := by
        rw [deeds_spend (body_not_form hb), hp.deeds]
      rw [Action.run_bind_ok (Action.run_ofExcept_ok _ _ _), Action.run_bind, exchange_run]
      have turn {after : World} (hd : after.deeds = (ready.spend request).deeds)
          (hr : after.replies = ready.replies.tail) :
          client.Turn method reference params json world (outcome request ready.replies) after :=
        .sent asks hp.leaves (hd.trans deeds) hr
      cases ho : outcome request ready.replies with
      | error failure =>
        rw [ho] at turn
        exact turn rfl rfl
      | ok response =>
        rw [ho] at turn
        simp only [Action.run_bind, Action.run_note, Action.run_pure]
        exact turn (deeds_noted _ _) rfl

/-- A request to a path is one turn, with the version among its parameters. -/
theorem send_turn (client : Client) (method path : String) (params : Members) (json : Json)
    (extra : Headers) (world : World) :
    client.Turn method path
      (some (Client.paramPairs (params.insert "api-version" (.str client.apiVersion)))) json world
      ((client.send method path params json extra).run world).1
      ((client.send method path params json extra).run world).2 := by
  unfold Client.send
  by_cases hv : client.apiVersion = ""
  · rw [if_pos hv, Action.run_bind_error (Action.run_throw _ _)]
    exact .unsent (.version rfl hv) rfl (.inl rfl)
  · rw [if_neg hv]
    cases ha : client.resolve path with
    | error fault =>
      rw [Action.run_bind_error (Action.run_ofExcept_error _ _ _)]
      exact .unsent (.reference ha) rfl (.inl rfl)
    | ok address =>
      rw [Action.run_bind_ok (Action.run_ofExcept_ok _ _ _)]
      exact request_turn ha _ _ (fun _ => hv) _ _ _

/-- Reading on at a link is one turn, with no parameter beside the link. -/
theorem fetchNext_turn (client : Client) {link : String} (hl : link ≠ "") (world : World) :
    client.Turn "GET" link none .null world
      ((client.fetchNext link).run world).1 ((client.fetchNext link).run world).2 := by
  unfold Client.fetchNext
  rw [if_neg hl]
  cases ha : client.resolve link with
  | error fault =>
    rw [Action.run_bind_error (Action.run_ofExcept_error _ _ _)]
    exact .unsent (.reference ha) rfl (.inl rfl)
  | ok address =>
    rw [Action.run_bind_ok (Action.run_ofExcept_ok _ _ _)]
    exact request_turn ha _ _ (fun hp => absurd hp (by simp)) _ _ _

/-- A read of a place that was asked for before is only kept back for want of a token. -/
theorem unsent_tokenless {client : Client} {method reference : String}
    {params : Option (List (String × String))} {json : Json} {request : Request}
    {failure : Failure} (asks : client.Asks method reference params json request)
    (h : client.Unsent reference params .null failure) :
    ∃ address, client.resolve reference = .ok address ∧ client.Tokenless address failure := by
  obtain ⟨address, ha, hu⟩ := asks.url_eq
  cases h with
  | version hp hv => exact absurd hv (asks.version hp)
  | reference hr => simp [ha] at hr
  | place hr hp =>
    cases ha.symm.trans hr
    simp [hu] at hp
  | value hb => simp [Client.bodyOf, Json.isNull] at hb
  | token hr ht => exact ⟨_, hr, ht⟩

end LakeAdmin
