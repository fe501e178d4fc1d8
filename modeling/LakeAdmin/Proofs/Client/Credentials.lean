import LakeAdmin.Proofs.Client.OwnHost
import LakeAdmin.Proofs.Client.Request

/-!
Who gets to see a token. `Guards` says of one request when it carries a token and which
host it then goes to, and `Discreet` says of everything that was done that each request is
guarded and that tokens are looked for on behalf of the own host only. Actions that are
discreet stay so when they are put together.
-/

namespace LakeAdmin

open Http Text Url

/-! ## The header for credentials -/

namespace Http

def Request.CarriesToken (request : Request) : Prop :=
  ∃ token : Document, request.headers.get? "Authorization" = some ("Bearer " ++ token.plain)

/-- Whether a header is not the one for credentials. -/
def Headers.isOther (name : String) : Bool := lowerAscii name != lowerAscii "Authorization"

theorem values_append (headers more : Headers) (name : String) :
    Headers.values (headers ++ more) name = headers.values name ++ Headers.values more name := by
  simp [Headers.values]

theorem values_others {headers : Headers} (h : ∀ header ∈ headers, Headers.isOther header.1 = true) :
    headers.values "Authorization" = [] := by
  unfold Headers.values
  rw [List.map_eq_nil_iff, List.filter_eq_nil_iff]
  intro header hm
  have other := h header hm
  unfold Headers.isOther at other
  simpa using other

theorem values_authorization (value : String) :
    Headers.values [("Authorization", value)] "Authorization" = [value] := by
  simp [Headers.values]

theorem get_of_values {headers : Headers} {value : String}
    (h : headers.values "Authorization" = [value]) : headers.get? "Authorization" = some value := by
  unfold Headers.get?
  rw [h]
  rfl

theorem get_none_of_values {headers : Headers} (h : headers.values "Authorization" = []) :
    headers.get? "Authorization" = none := by
  unfold Headers.get?
  rw [h]

theorem isOther_of_length {name : String} (h : name.toList.length ≠ 13) :
    Headers.isOther name = true := by
  unfold Headers.isOther
  rw [bne_iff_ne]
  intro same
  have lengths := congrArg (fun s => s.toList.length) same
  simp only [lowerAscii_toList, List.length_map] at lengths
  exact h lengths

theorem bearer_basic (token secret : String) : "Basic " ++ secret ≠ "Bearer " ++ token := by
  intro same
  have texts := congrArg String.toList same
  simp at texts

/-- Credentials of a URL take the place of a token. -/
theorem withCredentials_values (url : Url) (headers : Headers) :
    (url.credentials? = none ∧ headers.withCredentials url = headers) ∨
      (url.credentials? ≠ none ∧ ∃ secret,
        (headers.withCredentials url).values "Authorization" = ["Basic " ++ secret]) := by
  unfold Headers.withCredentials
  cases url.credentials? with
  | none => exact .inl ⟨rfl, rfl⟩
  | some pair =>
    have others : ∀ header ∈ headers.filter (fun header => Headers.isOther header.1),
        Headers.isOther header.1 = true := fun header hm => (List.mem_filter.mp hm).2
    refine .inr ⟨by simp, String.ofList (Base64.encode (Utf8.encode (pair.1 ++ ":" ++ pair.2))), ?_⟩
    show (Headers.replace headers "Authorization" _).values "Authorization" = _
    unfold Headers.replace
    rw [values_append, values_authorization]
    exact congrArg (· ++ _) (values_others others)

end Http

/-- The headers of a request hold the one for credentials just as it was looked up. -/
theorem headersOf_values (client : Client) (id : String) (own : Headers) (body : Body) :
    (Client.withContentType body (client.headersOf id own [])).values "Authorization" =
      own.values "Authorization" := by
  have usual : ∀ header ∈ ([("Accept", "application/json"),
      ("Accept-Language", client.acceptLanguage), ("User-Agent", client.userAgent),
      ("x-ms-client-request-id", id)] : Headers), Headers.isOther header.1 = true := by
    intro header hm
    simp only [List.mem_cons, List.not_mem_nil, or_false] at hm
    rcases hm with rfl | rfl | rfl | rfl
    · exact isOther_of_length (show "Accept".toList.length ≠ 13 by decide)
    · exact isOther_of_length (show "Accept-Language".toList.length ≠ 13 by decide)
    · exact isOther_of_length (show "User-Agent".toList.length ≠ 13 by decide)
    · exact isOther_of_length (show "x-ms-client-request-id".toList.length ≠ 13 by decide)
  have plain : (client.headersOf id own []).values "Authorization" =
      own.values "Authorization" := by
    unfold Client.headersOf
    rw [List.foldl_nil, values_append, values_others usual, List.nil_append]
  unfold Client.withContentType
  split
  · rename_i type _ _
    have added : Headers.values [("Content-Type", type)] "Authorization" = [] := by
      refine values_others fun header hm => ?_
      rw [List.mem_singleton] at hm
      rw [hm]
      exact isOther_of_length (show "Content-Type".toList.length ≠ 13 by decide)
    rw [values_append, plain, added, List.append_nil]
  · exact plain

/-! ## One request -/

/-- What holds of a request that was sent for an address. It is none for a token, and carries
a token if and only if the address passed the check and the URL brings no credentials of its
own. Where the address
is absolute, that is so if and only if the URL has the host of the base URL. Whatever the
address is, a token goes to no other host: where the URL does not have the host of the base
URL, it has none, or the same one in another case of letters. -/
structure Client.Guards (client : Client) (address : String) (request : Request) : Prop where
  url : ∃ params, requestUrl address params = .ok request.url
  plain : request.body.isForm = false
  token : request.CarriesToken ↔
    client.tokens.isSome ∧ client.isOwnHost address = .ok true ∧ request.url.credentials? = none
  absolute : client.tokens.isSome → Reference.isAbsolute address = true →
    (request.CarriesToken ↔ client.HasHost request.url ∧ request.url.credentials? = none)
  confined : request.CarriesToken → request.url.host = "" ∨
    ∃ host, (host = request.url.host ∨ host = lowerAscii request.url.host) ∧
      client.HasHost { request.url with host := host }

/-- What is found for an address: a token for the own host, nothing for any other. -/
inductive Client.Finds (client : Client) (address : String) : Headers → Prop
  | none (h : client.tokens = .none) : Client.Finds client address []
  | withheld (h : client.tokens.isSome) (away : client.isOwnHost address = .ok false) :
      Client.Finds client address []
  | token {token : Document} (h : client.tokens.isSome) (own : client.isOwnHost address = .ok true) :
      Client.Finds client address [("Authorization", "Bearer " ++ token.plain)]

theorem carriesToken_iff {client : Client} {address method : String}
    {params : Option (List (String × String))} {json : Json} {id : String} {own : Headers}
    {request : Request} (found : client.Finds address own)
    (h : Client.draft method address params json (client.headersOf id own []) = .ok request) :
    request.CarriesToken ↔
      client.tokens.isSome ∧ client.isOwnHost address = .ok true ∧
        request.url.credentials? = none := by
  obtain ⟨-, -, -, headers⟩ := draft_ok h
  unfold Request.CarriesToken
  rw [headers]
  rcases withCredentials_values request.url
    (Client.withContentType request.body (client.headersOf id own [])) with
    ⟨bare, same⟩ | ⟨own', secret, basic⟩
  · have values := headersOf_values client id own request.body
    rw [same]
    cases found with
    | none none =>
      rw [get_none_of_values values]
      simp [none]
    | withheld some away =>
      rw [get_none_of_values values]
      simp [away]
    | @token token some own =>
      rw [values_authorization] at values
      simp only [some, own, bare, and_self, iff_true]
      exact ⟨token, get_of_values values⟩
  · constructor
    · rintro ⟨token, carried⟩
      rw [get_of_values basic] at carried
      exact absurd (Option.some.inj carried) (bearer_basic _ _)
    · rintro ⟨-, -, none⟩
      exact absurd none own'

theorem draft_guards {client : Client} {address method : String}
    {params : Option (List (String × String))} {json : Json} {id : String} {own : Headers}
    {request : Request} (found : client.Finds address own)
    (h : Client.draft method address params json (client.headersOf id own []) = .ok request) :
    client.Guards address request := by
  have token := carriesToken_iff found h
  obtain ⟨-, hu, hb, -⟩ := draft_ok h
  refine ⟨⟨params, hu⟩, body_not_form hb, token, ?_, ?_⟩
  · intro some absolute
    rw [token]
    cases found with
    | none none => simp [none] at some
    | withheld _ away =>
      have host := isOwnHost_absolute absolute hu away
      simp [away, ← host]
    | token _ own =>
      have host := isOwnHost_absolute absolute hu own
      simp [some, own, ← host]
  · intro carried
    exact isOwnHost_confined hu (token.mp carried).2.1

/-! ## Everything that was done -/

/-- What the search for a token of an address sends: at most one form, and that for the own
host only. -/
inductive Client.Searches (client : Client) (address : String) : List Event → Prop
  | nothing : Client.Searches client address []
  | form {request : Request} (own : client.isOwnHost address = .ok true)
      (form : request.body.isForm = true) : Client.Searches client address [.sent request]

/-- What was done keeps tokens from other hosts: lines of the log and waits aside, it is
requests, each guarded and with the search for its token right before it, and searches
whose request came to nothing. -/
inductive Client.Discreet (client : Client) : List Event → Prop
  | nil : Client.Discreet client []
  | noted {line : Note} {rest : List Event} (more : Client.Discreet client rest) :
      Client.Discreet client (.noted line :: rest)
  | slept {seconds : Binary64} {rest : List Event} (more : Client.Discreet client rest) :
      Client.Discreet client (.slept seconds :: rest)
  | sent {address : String} {request : Request} {search rest : List Event}
      (searches : client.Searches address search) (guards : client.Guards address request)
      (more : Client.Discreet client rest) :
      Client.Discreet client (search ++ .sent request :: rest)
  | unsent {address : String} {search rest : List Event}
      (searches : client.Searches address search) (more : Client.Discreet client rest) :
      Client.Discreet client (search ++ rest)

theorem discreet_append {client : Client} {first second : List Event}
    (h : client.Discreet first) (h' : client.Discreet second) :
    client.Discreet (first ++ second) := by
  induction h with
  | nil => exact h'
  | noted more ih => exact .noted ih
  | slept more ih => exact .slept ih
  | sent searches guards more ih =>
    rw [List.append_assoc]
    exact .sent searches guards ih
  | unsent searches more ih =>
    rw [List.append_assoc]
    exact .unsent searches ih

/-- An action that is discreet in every world. -/
def Client.Keeps (client : Client) {α : Type} (action : Action α) : Prop :=
  ∀ world, ∃ done, (action.run world).2.events = world.events ++ done ∧ client.Discreet done

variable {client : Client} {α β : Type}

theorem keeps_pure (a : α) : client.Keeps (pure a : Action α) := fun _ =>
  ⟨[], (List.append_nil _).symm, .nil⟩

theorem keeps_throw (failure : Failure) : client.Keeps (throw failure : Action α) := fun _ =>
  ⟨[], (List.append_nil _).symm, .nil⟩

theorem keeps_ofExcept {ε : Type} (wrap : ε → Failure) (x : Except ε α) :
    client.Keeps (Action.ofExcept wrap x) := by
  cases x with
  | error e => exact keeps_throw (wrap e)
  | ok a => exact keeps_pure a

theorem keeps_note (line : Note) : client.Keeps (Action.note line) := fun _ =>
  ⟨[.noted line], rfl, .noted .nil⟩

theorem keeps_sleep (seconds : Binary64) : client.Keeps (Action.sleep seconds) := fun _ =>
  ⟨[.slept seconds], rfl, .slept .nil⟩

theorem keeps_bind {x : Action α} {f : α → Action β} (hx : client.Keeps x)
    (hf : ∀ a, client.Keeps (f a)) : client.Keeps (x >>= f) := by
  intro world
  obtain ⟨first, before, discreet⟩ := hx world
  rw [Action.run_bind]
  rcases hr : x.run world with ⟨failure | a, after⟩
  · rw [hr] at before
    exact ⟨first, before, discreet⟩
  · rw [hr] at before
    obtain ⟨second, behind, discreet'⟩ := hf a after
    refine ⟨first ++ second, ?_, discreet_append discreet discreet'⟩
    dsimp only at before ⊢
    rw [behind, before, List.append_assoc]

/-! ## Requests of a client -/

theorem next_searches {client : Client} {address : String}
    (own : client.isOwnHost address = .ok true) (source : TokenSource) (world : World) :
    ∃ search, (source.next.run world).2.events = world.events ++ search ∧
      client.Searches address search := by
  have errand := next_errand source world
  generalize (source.next.run world).2 = after at errand
  cases errand with
  | none => exact ⟨[], (List.append_nil _).symm, .nothing⟩
  | @exchanged request kept form => exact ⟨[.sent request], rfl, .form own form⟩

/-- What the search for the header of an address does and finds. -/
theorem authorization_finds (client : Client) (address : String) (world : World) :
    ∃ lines search,
      ((client.authorization address).run world).2.events =
        world.events ++ (lines ++ search) ∧
      (∀ event ∈ lines, ∃ line, event = .noted line) ∧ client.Searches address search ∧
      ∀ own, ((client.authorization address).run world).1 = .ok own →
        client.Finds address own := by
  unfold Client.authorization
  cases ht : client.tokens with
  | none =>
    refine ⟨[], [], (List.append_nil _).symm, by simp, .nothing, fun own found => ?_⟩
    cases found
    exact .none ht
  | some source =>
    have some : client.tokens.isSome := by simp [ht]
    dsimp only
    cases ho : client.isOwnHost address with
    | error failure =>
      rw [Action.run_bind_error (Action.run_ofExcept_error _ _ _)]
      refine ⟨[], [], (List.append_nil _).symm, by simp, .nothing, fun own found => ?_⟩
      cases found
    | ok own =>
      rw [Action.run_bind_ok (Action.run_ofExcept_ok _ _ _)]
      cases own with
      | false =>
        refine ⟨[.noted (.withheld address)], [], rfl, by simp, .nothing, fun own found => ?_⟩
        cases found
        exact .withheld some ho
      | true =>
        obtain ⟨search, events, searches⟩ := next_searches ho source world
        refine ⟨[], search, ?_, by simp, searches, fun own found => ?_⟩
        · simp only [↓reduceIte, Action.run_bind]
          rcases hr : source.next.run world with ⟨_ | _, after⟩ <;> rw [hr] at events <;>
            exact events
        · simp only [↓reduceIte, Action.run_bind] at found
          rcases hr : source.next.run world with ⟨failure | token, after⟩
          · rw [hr] at found
            cases found
          · rw [hr] at found
            cases found
            exact .token some ho

theorem discreet_lines {client : Client} {lines rest : List Event}
    (h : ∀ event ∈ lines, ∃ line, event = .noted line) (more : client.Discreet rest) :
    client.Discreet (lines ++ rest) := by
  induction lines with
  | nil => exact more
  | cons event lines ih =>
    obtain ⟨line, rfl⟩ := h event (by simp)
    exact .noted (ih fun other ho => h other (by simp [ho]))

/-- One request is discreet, whatever its address is. -/
theorem keeps_request (client : Client) (method address : String)
    (params : Option (List (String × String))) (json : Json) :
    client.Keeps (client.request method address params json []) := by
  intro world
  obtain ⟨lines, search, events, notes, searches, finds⟩ :=
    authorization_finds client address { world with ids := world.ids + 1 }
  have searched : client.Discreet (lines ++ search) := by
    have alone := Client.Discreet.unsent searches .nil
    rw [List.append_nil] at alone
    exact discreet_lines notes alone
  unfold Client.request
  rw [Action.run_bind, headers_run]
  rcases hr : (client.authorization address).run { world with ids := world.ids + 1 } with
    ⟨failure | own, ready⟩
  · rw [hr] at events
    exact ⟨lines ++ search, events, searched⟩
  · rw [hr] at events finds
    dsimp only [Except.map] at events ⊢
    cases hd : Client.draft method address params json
        (client.headersOf (Action.idText world.ids) own []) with
    | error failure =>
      rw [Action.run_bind_error (Action.run_ofExcept_error _ _ _)]
      exact ⟨lines ++ search, events, searched⟩
    | ok request =>
      have guards := draft_guards (finds own rfl) hd
      have sent (rest : List Event) (more : client.Discreet rest) :
          client.Discreet (lines ++ (search ++ .sent request :: rest)) :=
        discreet_lines notes (.sent searches guards more)
      rw [Action.run_bind_ok (Action.run_ofExcept_ok _ _ _), Action.run_bind, exchange_run]
      cases outcome request ready.replies with
      | error failure =>
        refine ⟨_, ?_, sent [] .nil⟩
        simp [events]
      | ok response =>
        refine ⟨_, ?_, sent [.noted (.answered method request.url.toText response.status)]
          (.noted .nil)⟩
        simp [events]

theorem keeps_send (client : Client) (method path : String) (params : Members) (json : Json) :
    client.Keeps (client.send method path params json []) := by
  unfold Client.send
  split
  · exact keeps_bind (keeps_throw _) fun _ =>
      keeps_bind (keeps_ofExcept _ _) fun _ => keeps_request _ _ _ _ _
  · exact keeps_bind (keeps_ofExcept _ _) fun _ => keeps_request _ _ _ _ _

theorem keeps_fetchNext (client : Client) (link : String) :
    client.Keeps (client.fetchNext link) := by
  unfold Client.fetchNext
  split
  · exact keeps_bind (keeps_throw _) fun _ =>
      keeps_bind (keeps_ofExcept _ _) fun _ => keeps_request _ _ _ _ _
  · exact keeps_bind (keeps_ofExcept _ _) fun _ => keeps_request _ _ _ _ _

theorem keeps_follow (client : Client) (link : Wide) : client.Keeps (client.follow link) := by
  cases link with
  | plain s => exact keeps_fetchNext client s
  | ragged text => exact keeps_throw _

end LakeAdmin
