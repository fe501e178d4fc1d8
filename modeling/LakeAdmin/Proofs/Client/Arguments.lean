import LakeAdmin.Proofs.Client.Path
import LakeAdmin.Proofs.Client.Request
import LakeAdmin.Proofs.Http.Decode
import LakeAdmin.Proofs.Url.Host

/-!
Which failures come from where. A request fails on the way, and so does the search for a
token; a response that cannot be used fails as an answer. None of them complains about the
arguments of a call: that is left to the checks before the first request, to a client without
a version and to a link that is empty.
-/

namespace LakeAdmin

open Http

variable {α β ε : Type} {kind : Failure → Bool} {client : Client}

/-! ## Kinds of failures -/

namespace Failure

/-- A failure on the way to the service or back, before there is an answer to look at. -/
def isTransport : Failure → Bool
  | badUrl _ | badHostName _ | noRoute _ | badRedirect _ | notStandardJson | notUnicode | token _
  | raised .. => true
  | _ => false

/-- A failure of the answer: it refuses, is of no use, or cannot be read. -/
def isAnswered : Failure → Bool
  | fault _ | malformed .. | codec _ | nested _ => true
  | _ => false

/-- A failure that is no complaint about the arguments. -/
def isBlameless : Failure → Bool
  | invalidArgument _ => false
  | _ => true

theorem blameless_of_transport {failure : Failure} (h : failure.isTransport = true) :
    failure.isBlameless = true := by
  cases failure <;> first | rfl | cases h

theorem blameless_of_answered {failure : Failure} (h : failure.isAnswered = true) :
    failure.isBlameless = true := by
  cases failure <;> first | rfl | cases h

end Failure

/-- A result that fails in ways of one kind only, if at all. -/
def FailsAs (kind : Failure → Bool) (result : Except Failure α) : Prop :=
  ∀ failure, result = .error failure → kind failure = true

theorem failsAs_ok (a : α) : FailsAs kind (.ok a) := by
  intro failure h
  cases h

theorem failsAs_error {failure : Failure} (h : kind failure = true) :
    FailsAs kind (.error failure : Except Failure α) := by
  intro other he
  cases he
  exact h

theorem FailsAs.mono {kind' : Failure → Bool} {x : Except Failure α} (h : FailsAs kind x)
    (wider : ∀ {failure : Failure}, kind failure = true → kind' failure = true) :
    FailsAs kind' x := fun failure he => wider (h failure he)

theorem failsAs_bind {x : Except Failure α} {f : α → Except Failure β} (hx : FailsAs kind x)
    (hf : ∀ a, FailsAs kind (f a)) : FailsAs kind (x >>= f) := by
  cases x with
  | error failure => exact failsAs_error (hx failure rfl)
  | ok a => exact hf a

theorem failsAs_map {x : Except Failure α} (hx : FailsAs kind x) (f : α → β) :
    FailsAs kind (x.map f) :=
  failsAs_bind hx fun a => failsAs_ok (f a)

theorem failsAs_mapError {x : Except ε α} {wrap : ε → Failure}
    (h : ∀ e, kind (wrap e) = true) : FailsAs kind (x.mapError wrap) := by
  cases x with
  | error e => exact failsAs_error (h e)
  | ok a => exact failsAs_ok a

/-! ## Responses -/

theorem unread_answered {response : Response} {failure : Failure}
    (h : response.Unread failure) : failure.isAnswered = true := by
  cases h <;> rfl

theorem refused_answered (response : Response) : response.refused.isAnswered = true := by
  rcases response.refused_ends with ⟨body, -, same⟩ | unread
  · rw [same]
    rfl
  · exact unread_answered unread

theorem malformed_answered (response : Response) (reason : Undecodable) :
    (response.malformed reason).isAnswered = true := by
  rcases response.malformed_ends reason with ⟨text, -, same⟩ | unread
  · rw [same]
    rfl
  · exact unread_answered unread

theorem requireSuccess_answered (response : Response) (success : List Int) :
    FailsAs Failure.isAnswered (response.requireSuccess success) := by
  unfold Response.requireSuccess
  split
  · exact failsAs_ok ()
  · exact failsAs_error (refused_answered response)

theorem document_answered (response : Response) : FailsAs Failure.isAnswered response.document := by
  unfold Response.document
  split
  · exact failsAs_ok _
  · exact failsAs_error (malformed_answered response _)
  · exact failsAs_error rfl

theorem documentIfAny_answered (success : List Int) (response : Response) :
    FailsAs Failure.isAnswered (response.documentIfAny success) := by
  unfold Response.documentIfAny
  refine failsAs_bind (requireSuccess_answered response success) fun _ => ?_
  split
  · exact failsAs_ok none
  · exact failsAs_bind (document_answered response) fun value => failsAs_ok (some value)

theorem page_answered {κ : Type} (item : Schema.Check κ Wide) (success : List Int)
    (response : Response) : FailsAs Failure.isAnswered (response.page item success) := by
  unfold Response.page
  refine failsAs_bind (requireSuccess_answered response success) fun _ => ?_
  refine failsAs_bind (document_answered response) fun value => ?_
  split
  · exact failsAs_ok _
  · exact failsAs_error (malformed_answered response _)

theorem value_answered (name : String) (check : Schema.Check α Wide) (success : List Int)
    (response : Response) : FailsAs Failure.isAnswered (response.value name check success) := by
  unfold Response.value
  refine failsAs_bind (documentIfAny_answered success response) fun document => ?_
  split
  · exact failsAs_ok none
  · split
    · exact failsAs_ok _
    · exact failsAs_error (malformed_answered response _)

theorem hostName_transport (url : Url) : FailsAs Failure.isTransport (hostName url) :=
  failsAs_mapError fun _ => rfl

theorem placeBeside_transport (url place : Url) :
    FailsAs Failure.isTransport (placeBeside url place) := by
  have joined (place : Url) : FailsAs Failure.isTransport
      (if place.isAbsolute then pure place else (url.join place.toText).mapError .badUrl) := by
    split
    · exact failsAs_ok place
    · exact failsAs_mapError fun _ => rfl
  unfold placeBeside
  dsimp only
  split
  · refine failsAs_bind (hostName_transport place) fun name => ?_
    split
    · exact failsAs_bind (hostName_transport url) fun host =>
        failsAs_bind (failsAs_mapError fun _ => rfl) joined
    · exact failsAs_bind (failsAs_ok place) joined
  · exact failsAs_bind (failsAs_ok place) joined

theorem redirectTarget_transport (url : Url) (location : String) :
    FailsAs Failure.isTransport (redirectTarget url location) := by
  unfold redirectTarget
  refine failsAs_bind (failsAs_mapError fun _ => rfl) fun place => ?_
  refine failsAs_bind (placeBeside_transport url place) fun place => ?_
  dsimp only
  exact failsAs_bind (hostName_transport _) fun _ =>
    failsAs_bind (hostName_transport _) fun _ => failsAs_ok place

/-- What comes of a request is a response or a failure on the way, whatever the replies are. -/
theorem outcome_transport (request : Request) (replies : List Reply) :
    FailsAs Failure.isTransport (outcome request replies) := by
  unfold outcome
  split
  · exact failsAs_error rfl
  · exact failsAs_error rfl
  · unfold accept
    dsimp only
    split
    · exact failsAs_error rfl
    · split
      · exact failsAs_map (redirectTarget_transport _ _) _
      · exact failsAs_ok _

/-! ## Actions -/

namespace Http.Action

/-- An action that fails in ways of one kind only, in any world. -/
def FailsAs (kind : Failure → Bool) (action : Action α) : Prop :=
  ∀ world, LakeAdmin.FailsAs kind (action.run world).1

theorem FailsAs.mono {kind' : Failure → Bool} {x : Action α} (h : FailsAs kind x)
    (wider : ∀ {failure : Failure}, kind failure = true → kind' failure = true) :
    FailsAs kind' x := fun world => (h world).mono wider

theorem failsAs_pure (a : α) : FailsAs kind (pure a) := fun _ => failsAs_ok a

theorem failsAs_throw {failure : Failure} (h : kind failure = true) :
    FailsAs kind (throw failure : Action α) := fun _ => failsAs_error h

theorem failsAs_then {x : Action α} {f : α → Action β} (hx : FailsAs kind x)
    (hf : ∀ a, FailsAs kind (f a)) : FailsAs kind (x >>= f) := by
  intro world
  have first := hx world
  rw [run_bind]
  rcases hr : x.run world with ⟨failure | a, after⟩
  · rw [hr] at first
    exact failsAs_error (first failure rfl)
  · exact hf a after

theorem failsAs_result {x : Except Failure α} (hx : LakeAdmin.FailsAs kind x) :
    FailsAs kind (ofExcept id x) := by
  intro world
  rw [run_ofExcept]
  exact hx

theorem failsAs_wrapped {x : Except ε α} {wrap : ε → Failure}
    (h : ∀ e, kind (wrap e) = true) : FailsAs kind (ofExcept wrap x) := by
  cases x with
  | error e => exact failsAs_throw (h e)
  | ok a => exact failsAs_pure a

theorem failsAs_get : FailsAs kind (get : Action World) := fun _ => failsAs_ok _

theorem failsAs_modify (f : World → World) : FailsAs kind (modify f : Action PUnit) :=
  fun _ => failsAs_ok _

theorem failsAs_note (line : Note) : FailsAs kind (note line) := fun _ => failsAs_ok _

theorem failsAs_sleep (seconds : Binary64) : FailsAs kind (sleep seconds) := fun _ => failsAs_ok _

theorem exchange_transport (request : Request) :
    FailsAs Failure.isTransport (exchange request) := by
  intro world
  rw [exchange_run]
  exact outcome_transport request world.replies

end Http.Action

open Http.Action

/-! ## Requests -/

theorem fetch_transport (credentials : Token.Credentials) (scope : String) (now : Binary64) :
    Action.FailsAs Failure.isTransport (Token.fetch credentials scope now) := by
  unfold Token.fetch
  refine failsAs_then (failsAs_wrapped fun _ => rfl) fun url => ?_
  refine failsAs_then (exchange_transport _) fun response => ?_
  refine failsAs_then (failsAs_wrapped fun _ => rfl) fun found => ?_
  refine failsAs_then (failsAs_wrapped fun _ => rfl) fun expiresAt => ?_
  exact failsAs_then (failsAs_modify _) fun _ => failsAs_pure _

/-- The search for a token fails on the way to the token service, or on its answer. -/
theorem next_transport (source : TokenSource) :
    Action.FailsAs Failure.isTransport source.next := by
  cases source with
  | fixed token => exact failsAs_pure _
  | service credentials =>
    show Action.FailsAs Failure.isTransport (Token.obtain credentials Token.serviceScope)
    unfold Token.obtain
    refine failsAs_then failsAs_get fun world => ?_
    split
    · split
      · exact failsAs_pure _
      · exact fetch_transport _ _ _
    · exact fetch_transport _ _ _

theorem isOwnHost_transport (client : Client) (reference : String) :
    FailsAs Failure.isTransport (client.isOwnHost reference) := by
  have host (address : String) : FailsAs Failure.isTransport (Client.hostAt address) :=
    failsAs_bind (failsAs_mapError fun _ => rfl) hostName_transport
  have shares : FailsAs Failure.isTransport (client.sharesHost reference) :=
    failsAs_bind (failsAs_mapError fun _ => rfl) fun address =>
      failsAs_bind (host address) fun _ => failsAs_bind (host _) fun _ => failsAs_ok _
  unfold Client.isOwnHost
  split
  · exact failsAs_error rfl
  · exact failsAs_ok false
  · exact shares

theorem authorization_transport (client : Client) (address : String) :
    Action.FailsAs Failure.isTransport (client.authorization address) := by
  unfold Client.authorization
  split
  · exact failsAs_pure []
  · refine failsAs_then (failsAs_result (isOwnHost_transport client address)) fun own => ?_
    split
    · exact failsAs_then (next_transport _) fun token => failsAs_pure _
    · exact failsAs_then (failsAs_note _) fun _ => failsAs_pure []

theorem draft_transport (method address : String) (params : Option (List (String × String)))
    (json : Json) (headers : Headers) :
    FailsAs Failure.isTransport (Client.draft method address params json headers) := by
  have body : FailsAs Failure.isTransport (Client.bodyOf json) := by
    unfold Client.bodyOf
    split
    · exact failsAs_ok _
    · split
      · exact failsAs_ok _
      · exact failsAs_error rfl
  unfold Client.draft
  exact failsAs_bind (failsAs_mapError fun _ => rfl) fun url =>
    failsAs_bind body fun _ => failsAs_ok _

theorem request_transport (client : Client) (method address : String)
    (params : Option (List (String × String))) (json : Json) (extra : Headers) :
    Action.FailsAs Failure.isTransport (client.request method address params json extra) := by
  have headers : Action.FailsAs Failure.isTransport (client.headers address extra) := by
    intro world
    rw [headers_run]
    exact failsAs_map (authorization_transport client address _) _
  unfold Client.request
  refine failsAs_then headers fun headers => ?_
  refine failsAs_then (failsAs_result (draft_transport _ _ _ _ _)) fun request => ?_
  refine failsAs_then (exchange_transport request) fun response => ?_
  exact failsAs_then (failsAs_note _) fun _ => failsAs_pure response

/-- A client without a version complains of that, and sends nothing. -/
theorem send_unversioned (unversioned : client.apiVersion = "") (method path : String)
    (params : Members) (json : Json) (extra : Headers) (world : World) :
    (client.send method path params json extra).run world =
      (.error (.invalidArgument [.missing "api_version"]), world) := by
  unfold Client.send
  rw [if_pos unversioned, run_bind_error (run_throw _ _)]

/-- A client with a version has nothing to complain of when a request is sent. -/
theorem send_transport (versioned : client.apiVersion ≠ "") (method path : String)
    (params : Members) (json : Json) (extra : Headers) :
    Action.FailsAs Failure.isTransport (client.send method path params json extra) := by
  unfold Client.send
  rw [if_neg versioned]
  exact failsAs_then (failsAs_wrapped fun _ => rfl) fun address => request_transport _ _ _ _ _ _

/-- A link that is not empty is nothing to complain of, wherever it points. -/
theorem fetchNext_transport {link : String} (filled : link ≠ "") :
    Action.FailsAs Failure.isTransport (client.fetchNext link) := by
  unfold Client.fetchNext
  rw [if_neg filled]
  exact failsAs_then (failsAs_wrapped fun _ => rfl) fun address => request_transport _ _ _ _ _ _

theorem follow_transport {link : Wide} (filled : link ≠ "") :
    Action.FailsAs Failure.isTransport (client.follow link) := by
  cases link with
  | plain s => exact fetchNext_transport fun empty => filled (congrArg Wide.plain empty)
  | ragged text => exact failsAs_throw rfl

end LakeAdmin
