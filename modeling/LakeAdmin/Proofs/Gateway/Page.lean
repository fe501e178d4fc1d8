import LakeAdmin.Gateway.Answer
import LakeAdmin.Proofs.Client.Arguments
import LakeAdmin.Proofs.Client.OwnHost
import LakeAdmin.Proofs.Client.Segments
import LakeAdmin.Proofs.Client.Sending
import LakeAdmin.Proofs.Model.Writable
import LakeAdmin.Proofs.Service.Listing

/-!
One page of a list from the gateway. The token of a page is whatever a caller sends, and it
is checked before it is followed: one that leads to another host is refused, and nothing is
sent; one that leads to the own host, or none, is asked for with one request, which goes to
the own host. Where the check has no answer, because the token cannot be joined to the base
URL or the name of its host cannot be read, nothing is sent either, but the answer breaks off.
-/

namespace LakeAdmin.Gateway

open Http Text Url

/-! ## Requests for pages -/

/-- A request for a page of a list: it leads to the list, the options are right, and the names
of the path have values. -/
inductive Hub.Lists (hub : Hub) (request : Request) (path : String) (token : Option String) :
    ListOperation → Identity → Option QueryOptions → Prop
  | accounts {values : List (String × String)} {options : QueryOptions}
      (leads : destination request.method (Percent.decode request.path) =
        .route .accounts values)
      (right : accountOptions (Query.ofText request.query) = .valid options)
      (named : hub.client.operationPath Path.accounts (some (identityOf values))
        (givenOptions options) [] = .ok path)
      (continues : (Query.ofText request.query).get? "page_token" = token) :
      Hub.Lists hub request path token .accounts (identityOf values) (givenOptions options)
  | accountsOfGroup {values : List (String × String)} {options : QueryOptions}
      (leads : destination request.method (Percent.decode request.path) =
        .route .accountsOfGroup values)
      (right : groupOptions (Query.ofText request.query) = .valid options)
      (named : hub.client.operationPath Path.accountsOfGroup (some (identityOf values))
        (givenOptions options) [] = .ok path)
      (continues : (Query.ofText request.query).get? "page_token" = token) :
      Hub.Lists hub request path token .accountsOfGroup (identityOf values)
        (givenOptions options)

/-- The list that such a request leads to can be walked as well. -/
theorem lists_made {hub : Hub} {request : Request} {path : String} {token : Option String}
    {operation : ListOperation} {identity : Identity} {query : Option QueryOptions}
    (h : hub.Lists request path token operation identity query) :
    hub.client.list operation (some identity) query =
      .ok ⟨hub.client.fetchPage operation path (queryParams query), none⟩ := by
  cases h with
  | accounts leads right named continues => exact list_placed .accounts named
  | accountsOfGroup leads right named continues => exact list_placed .accountsOfGroup named

/-- The answer to a request for a page is one page of the list. -/
theorem answer_lists {hub : Hub} {request : Request} {path : String} {token : Option String}
    {operation : ListOperation} {identity : Identity} {query : Option QueryOptions}
    (h : hub.Lists request path token operation identity query) (world : World) :
    answer hub request world =
      complete hub.room (onePage hub.client
        ⟨hub.client.fetchPage operation path (queryParams query), none⟩ token) world := by
  have made := lists_made h
  unfold answer
  cases h with
  | accounts leads right named continues =>
    rw [leads]
    dsimp only
    unfold work
    dsimp only
    rw [right, continues]
    dsimp only [Schema.Checked.map]
    rw [made]
    rfl
  | accountsOfGroup leads right named continues =>
    rw [leads]
    dsimp only
    unfold work
    dsimp only
    rw [right, continues]
    dsimp only [Schema.Checked.map]
    rw [made]
    rfl

/-! ## The check of a token -/

/-- The link that a token is, if it is not empty. -/
def linkOf (token : Option String) : Option String := token.filter (· ≠ "")

/-- The same link as pages name it. -/
def pageLink (token : Option String) : Option Wide := (linkOf token).map .plain

theorem tokenOf_plain (token : Option String) :
    Pager.tokenOf (token.map .plain) = pageLink token := by
  cases token with
  | none => rfl
  | some link =>
    by_cases empty : link = "" <;>
      simp [Pager.tokenOf, pageLink, linkOf, Option.filter_some, empty]

theorem pageLink_ne (token : Option String) : pageLink token ≠ some (.plain "") := by
  rw [← tokenOf_plain]
  exact Pager.tokenOf_ne _

/-- A token may be followed: there is none, or it leads to the own host. -/
def Admits (client : Client) (token : Option String) : Prop :=
  ∀ link ∈ linkOf token, client.isOwnHost link = .ok true

theorem onePage_admitted {client : Client} {token : Option String} (h : Admits client token)
    (pager : Pager World Failure Resource) (world : World) :
    (onePage client pager token).run world =
      ((pager.fetch (pageLink token) world).1.map pageJson,
        (pager.fetch (pageLink token) world).2) := by
  have fetched : (do
      let page ← (fun world => pager.fetchPage (token.map .plain) world : Action (Page Resource))
      return pageJson page : Action Document).run world =
      ((pager.fetch (pageLink token) world).1.map pageJson,
        (pager.fetch (pageLink token) world).2) := by
    have ran : Action.run (fun world => pager.fetchPage (token.map .plain) world) world =
        pager.fetch (pageLink token) world := by
      rw [← tokenOf_plain]
      rfl
    rw [Action.run_bind, ran]
    rcases pager.fetch (pageLink token) world with ⟨_ | _, _⟩ <;> rfl
  unfold onePage
  rw [show token.filter (· ≠ "") = linkOf token from rfl]
  cases ht : linkOf token with
  | none => exact fetched
  | some link =>
    dsimp only
    rw [h link ht, Action.run_bind_ok (Action.run_ofExcept_ok _ _ _)]
    exact fetched

theorem onePage_foreign {client : Client} {token : Option String} {link : String}
    (ht : linkOf token = some link) (h : client.isOwnHost link = .ok false)
    (pager : Pager World Failure Resource) (world : World) :
    (onePage client pager token).run world =
      (.error (.invalidArgument [.tokenForeign]), world) := by
  unfold onePage
  rw [show token.filter (· ≠ "") = some link from ht]
  dsimp only
  rw [h, Action.run_bind_ok (Action.run_ofExcept_ok _ _ _)]
  exact Action.run_bind_error (Action.run_throw _ _)

theorem onePage_unread {client : Client} {token : Option String} {link : String}
    {failure : Failure} (ht : linkOf token = some link)
    (h : client.isOwnHost link = .error failure) (pager : Pager World Failure Resource)
    (world : World) : (onePage client pager token).run world = (.error failure, world) := by
  unfold onePage
  rw [show token.filter (· ≠ "") = some link from ht]
  dsimp only
  rw [h]
  exact Action.run_bind_error (Action.run_ofExcept_error _ _ _)

/-! ## The request for a page -/

/-- A client that can ask for the first page of a list: it names a version, its base URL is
the root of a host whose name can be read, and no text is too long. -/
structure Serves (client : Client) (base : Url) (path : String) (query : Option QueryOptions) :
    Prop where
  reaches : client.Reaches base path
  named : ∃ name, Http.hostName base = .ok name
  version : client.apiVersion ≠ ""
  fits : (Form.encode (client.listParams query)).length ≤ Url.lengthLimit

/-- Where the page of a token is asked for, the token resolved. -/
def placeOf (path : String) (token : Option String) : String := (linkOf token).getD path

/-- A page whose token may be followed is asked for at a URL of the own host. -/
theorem admitted_url {client : Client} {base : Url} {path : String} {query : Option QueryOptions}
    {token : Option String} (serves : Serves client base path query) (h : Admits client token) :
    ∃ address url asked, client.resolve (placeOf path token) = .ok address ∧
      Url.parse address = .ok url ∧ client.HasHost url ∧
      requestUrl address (if linkOf token = none then some (client.listParams query)
        else none) = .ok asked ∧ client.HasHost asked := by
  unfold placeOf
  cases ht : linkOf token with
  | none =>
    obtain ⟨resolved, place⟩ := reaches_url serves.reaches serves.fits
    obtain ⟨u, hu, -⟩ := requestUrl_ok place
    obtain ⟨inner, folder⟩ := root_folder serves.reaches.parsed serves.reaches.root
    obtain ⟨-, again⟩ := join_ok serves.reaches.stable (parse_written serves.reaches.parsed)
      serves.reaches.root folder serves.reaches.below serves.reaches.short
    obtain ⟨name, read⟩ := serves.named
    have own : client.HasHost base := ⟨base, name, serves.reaches.parsed, read, read⟩
    exact ⟨_, _, _, resolved, again, (hasHost_congr rfl).mpr own, place,
      (hasHost_congr rfl).mpr own⟩
  | some link =>
    obtain ⟨address, u, ha, hu, own⟩ := isOwnHost_true (h link ht)
    obtain ⟨address', url, ha', place, own'⟩ :=
      isOwnHost_asks serves.reaches.parsed serves.reaches.root (h link ht)
    cases ha'.symm.trans ha
    exact ⟨address, u, url, ha, hu, own, place, own'⟩

/-- The request for a page whose token may be followed goes to the own host. -/
theorem asks_own {client : Client} {base : Url} {operation : ListOperation} {path : String}
    {query : Option QueryOptions} {token : Option String} {request : Http.Request}
    (serves : Serves client base path query) (h : Admits client token)
    (asks : client.AsksForPage operation path query (pageLink token) request) :
    client.HasHost request.url := by
  obtain ⟨address, -, url, ha, -, -, place, own⟩ := admitted_url serves h
  unfold placeOf at ha
  unfold Client.AsksForPage pageLink at asks
  cases ht : linkOf token with
  | none =>
    rw [ht] at asks ha place
    obtain ⟨address', ha', hu⟩ := asks.url_eq
    cases ha.symm.trans ha'
    cases place.symm.trans hu
    exact own
  | some link =>
    rw [ht] at asks ha place
    obtain ⟨address', ha', hu⟩ := asks.url_eq
    cases ha.symm.trans ha'
    cases place.symm.trans hu
    exact own

/-- A page whose token may be followed is only kept back for want of a token of the client. -/
theorem unsent_own {client : Client} {base : Url} {path : String} {query : Option QueryOptions}
    {token : Option String} {failure : Failure} (serves : Serves client base path query)
    (h : Admits client token)
    (unsent : client.PageUnsent path query (pageLink token) failure) :
    ∃ address, client.resolve (placeOf path token) = .ok address ∧
      client.Tokenless address failure := by
  obtain ⟨address, -, url, ha, -, -, place, -⟩ := admitted_url serves h
  have unsent : client.Unsent (placeOf path token) (if linkOf token = none then
      some (client.listParams query) else none) .null failure := by
    unfold placeOf
    unfold Client.PageUnsent pageLink at unsent
    cases ht : linkOf token <;> rw [ht] at unsent <;> exact unsent
  cases unsent with
  | version _ missing => exact absurd missing serves.version
  | reference fault => simp [ha] at fault
  | place found fault =>
    cases ha.symm.trans found
    simp [place] at fault
  | value fault => simp [Client.bodyOf, Json.isNull] at fault
  | token found tokenless => exact ⟨_, found, tokenless⟩

/-- Where the address of such a page is absolute, it passes the check of the client as well. -/
theorem admitted_again {client : Client} {base : Url} {path address : String}
    {query : Option QueryOptions} {token : Option String}
    (serves : Serves client base path query) (h : Admits client token)
    (resolved : client.resolve (placeOf path token) = .ok address)
    (absolute : Url.Reference.isAbsolute address = true) :
    client.isOwnHost address = .ok true := by
  obtain ⟨address', url, -, ha, hu, own, -⟩ := admitted_url serves h
  cases ha.symm.trans resolved
  exact isOwnHost_own absolute hu own

/-! ## Answers -/

def foreignAnswer : Answer :=
  ⟨400, .json (.obj [
    ("ok", .bool false),
    ("error", .str "invalid_argument"),
    ("details", .arr [.str "page_token must point at the configured ARM host"])]),
    none, none, none⟩

/-- An answer that lists resources can be written if each of them can: they stand two levels
deep in it. -/
theorem listMembers_writable {levels : Nat} {resources : List Resource}
    (h : ∀ resource ∈ resources, (resourceJson resource).IsWritable levels) :
    (Json.obj (listMembers resources)).IsWritable (levels + 2) := by
  have items : (Json.arr (resources.map resourceJson)).IsWritable (levels + 1) := by
    rw [Json.writable_arr]
    intro item hi
    obtain ⟨resource, hr, rfl⟩ := List.mem_map.mp hi
    exact h resource hr
  simp [listMembers, items, Wide.isPlain]

theorem pageJson_writable {levels : Nat} {page : Page Resource}
    (h : ∀ resource ∈ page.items, (resourceJson resource).IsWritable levels)
    (plain : ∀ link ∈ page.nextLink, link.isPlain = true) :
    (pageJson page).IsWritable (levels + 2) := by
  have token : (Json.ofText? page.nextLink).IsWritable (levels + 1) := by
    cases named : page.nextLink with
    | none => exact Json.writable_null
    | some link => exact Json.writable_str.mpr (plain link named)
  have members := Json.writable_obj.mp (listMembers_writable h)
  unfold pageJson
  rw [Json.writable_obj, List.forall_mem_append]
  exact ⟨members, by simp [token, Wide.isPlain]⟩

theorem obstacle_none {levels : Nat} {value : Document} :
    Answer.obstacle? levels value = none ↔ value.IsWritable levels := by
  unfold Answer.obstacle?
  constructor
  · intro free
    split at free
    · cases free
    · rename_i shallow
      split at free
      · cases free
      · rename_i finite
        split at free
        · cases free
        · rename_i plain
          exact ⟨Nat.not_lt.mp shallow, by simpa using finite, by simpa using plain⟩
  · rintro ⟨shallow, finite, plain⟩
    rw [if_neg (Nat.not_lt.mpr shallow), finite, plain]
    rfl

theorem ofJson_written {room : Room} {status : Int} {value : Document}
    (h : value.IsWritable (room.levels status)) :
    Answer.ofJson room status value = ⟨status, .json value, none, none, none⟩ := by
  unfold Answer.ofJson
  rw [obstacle_none.mpr h]

theorem ofJson_blocked {room : Room} {status : Int} {value : Document} {failure : Failure}
    (h : Answer.obstacle? (room.levels status) value = some failure) :
    Answer.ofJson room status value = .broken failure := by
  unfold Answer.ofJson
  rw [h]

/-- What the gateway has to say for itself is always written. -/
theorem ofJson_ample {room : Room} {status : Int} {value : Document} (h : value.IsWritable 4) :
    Answer.ofJson room status value = ⟨status, .json value, none, none, none⟩ :=
  ofJson_written (h.mono (room.ample status))

theorem foreign_written (room : Room) :
    ofFailure room (.invalidArgument [.tokenForeign]) = (none, foreignAnswer) := by
  unfold ofFailure
  dsimp only
  rw [ofJson_ample (by simp [Wide.isPlain])]
  rfl

variable {room : Room}

theorem complete_ok {action : Action Document} {value : Document} {world after : World}
    (h : action.run world = (.ok value, after)) :
    complete room action world = (.ofJson room 200 value, after) := by
  unfold complete
  rw [h]

/-- A failure is answered as it is, with a line of the log at most. -/
theorem complete_error {action : Action Document} {failure : Failure} {world after : World}
    (h : action.run world = (.error failure, after)) :
    (complete room action world).1 = (ofFailure room failure).2 ∧
      ((complete room action world).2 = after ∨
        ∃ line, (complete room action world).2 = after.record (.noted line)) := by
  unfold complete
  rw [h]
  dsimp only
  split
  · rename_i line _ found
    rw [found]
    exact ⟨rfl, .inr ⟨line, rfl⟩⟩
  · rename_i found
    rw [found]
    exact ⟨rfl, .inl rfl⟩

theorem complete_deeds {action : Action Document} {world : World} :
    (complete room action world).2.deeds = (action.run world).2.deeds := by
  rcases h : action.run world with ⟨failure | value, after⟩
  · obtain ⟨-, same | ⟨line, noted⟩⟩ := complete_error h
    · rw [same]
    · rw [noted]
      exact deeds_noted _ _
  · rw [complete_ok h]

theorem transport_broken {failure : Failure} (way : failure.isTransport = true) :
    ofFailure room failure = (none, .broken failure) := by
  cases failure <;> first | rfl | cases way

/-- How the gateway answers a token that it does not follow. -/
inductive Refuses (client : Client) (link : String) : Answer → Prop
  /-- The token leads to another host. -/
  | foreign (other : client.isOwnHost link = .ok false) : Refuses client link foreignAnswer
  /-- It cannot be told where the token leads. -/
  | unread {failure : Failure} (fails : client.isOwnHost link = .error failure) :
      Refuses client link (.broken failure)

/-- A token that may not be followed is answered at once, and nothing is done. -/
theorem answer_refuses {hub : Hub} {request : Request} {path : String} {token : Option String}
    {operation : ListOperation} {identity : Identity} {query : Option QueryOptions}
    (lists : hub.Lists request path token operation identity query)
    (barred : ¬Admits hub.client token) (world : World) :
    ∃ link answered, linkOf token = some link ∧ answer hub request world = (answered, world) ∧
      Refuses hub.client link answered := by
  obtain ⟨link, continues, other⟩ :
      ∃ link ∈ linkOf token, hub.client.isOwnHost link ≠ .ok true := by
    simpa [Admits] using barred
  refine ⟨link, ?_⟩
  rw [answer_lists lists]
  unfold complete
  cases own : hub.client.isOwnHost link with
  | ok same =>
    cases same with
    | true => exact absurd own other
    | false =>
      rw [onePage_foreign continues own]
      dsimp only
      rw [foreign_written]
      exact ⟨_, continues, rfl, .foreign own⟩
  | error failure =>
    rw [onePage_unread continues own]
    dsimp only
    rw [transport_broken (isOwnHost_transport hub.client link failure own)]
    exact ⟨_, continues, rfl, .unread own⟩

/-- What becomes of a request for the page of a token, and how it is answered. -/
inductive Paged (hub : Hub) (operation : ListOperation) (path : String)
    (query : Option QueryOptions) (token : Option String) (before : World) :
    Answer → World → Prop
  /-- There is no token, or it leads to the own host: one request is sent, and goes there. -/
  | asked {request : Http.Request} {answer : Answer} {after : World}
      (admitted : Admits hub.client token)
      (asks : hub.client.AsksForPage operation path query (pageLink token) request)
      (own : hub.client.HasHost request.url)
      (deeds : after.deeds = before.deeds ++ [.asked request]) :
      Paged hub operation path query token before answer after
  /-- The client has no token of its own for the request, and nothing is sent. Where the
  address is absolute, it is the source of these tokens that fails. -/
  | tokenless {address : String} {failure : Failure} {after : World}
      (admitted : Admits hub.client token)
      (resolved : hub.client.resolve (placeOf path token) = .ok address)
      (needs : hub.client.Tokenless address failure)
      (again : Url.Reference.isAbsolute address = true →
        hub.client.isOwnHost address = .ok true)
      (deeds : after.deeds = before.deeds) :
      Paged hub operation path query token before (ofFailure hub.room failure).2 after
  /-- The token leads to another host: it is refused, and nothing is done. -/
  | foreign {link : String} (continues : linkOf token = some link)
      (other : hub.client.isOwnHost link = .ok false) :
      Paged hub operation path query token before foreignAnswer before
  /-- It cannot be told where the token leads: the answer breaks off, and nothing is done. -/
  | unread {link : String} {failure : Failure} (continues : linkOf token = some link)
      (fails : hub.client.isOwnHost link = .error failure)
      (why : hub.client.Unreadable link failure) :
      Paged hub operation path query token before (.broken failure) before

/-- Every request for a page of a list is answered in one of these ways, whatever the token
is: no token makes the gateway ask another host, and the only ones for which it neither
refuses nor asks are those whose host cannot be read. -/
theorem answer_paged {hub : Hub} {request : Request} {path : String} {token : Option String}
    {operation : ListOperation} {identity : Identity} {query : Option QueryOptions} {base : Url}
    (lists : hub.Lists request path token operation identity query)
    (serves : Serves hub.client base path query) (world : World) :
    Paged hub operation path query token world (answer hub request world).1
      (answer hub request world).2 := by
  by_cases admitted : Admits hub.client token
  · have ran := onePage_admitted admitted
      ⟨hub.client.fetchPage operation path (queryParams query), none⟩ world
    have turn := fetchPage_turn hub.client operation path query (pageLink_ne token) world
    dsimp only at ran
    generalize hub.client.fetchPage operation path (queryParams query) (pageLink token)
      world = fetched at ran turn
    obtain ⟨result, after⟩ := fetched
    dsimp only at ran turn
    rw [answer_lists lists]
    cases turn with
    | unsent why deeds =>
      obtain ⟨address, resolved, tokenless⟩ := unsent_own serves admitted why
      rw [(complete_error ran).1]
      refine .tokenless admitted resolved tokenless (admitted_again serves admitted resolved) ?_
      rw [complete_deeds, ran]
      exact deeds
    | sent asks leaves deeds replies =>
      refine .asked admitted asks (asks_own serves admitted asks) ?_
      rw [complete_deeds, ran]
      exact deeds
  · obtain ⟨link, refusal, continues, answered, refuses⟩ := answer_refuses lists admitted world
    rw [answered]
    cases refuses with
    | foreign other => exact .foreign continues other
    | unread fails =>
      obtain ⟨name, read⟩ := serves.named
      exact .unread continues fails (isOwnHost_error serves.reaches.parsed read fails)

/-- The gateway with the standard settings and room for nine hundred levels. -/
def Hub.standard : Hub :=
  ⟨.standard, Client.ofSettings .standard, ⟨fun _ => 900, fun _ => by decide⟩⟩

/-- A token with a host that is no name: the gateway neither refuses it nor asks for the page,
its answer breaks off. -/
theorem answer_paged_nameless :
    ∃ failure, answer .standard
      ⟨"GET", "/subscriptions/s/accounts", some "page_token=https%3A%2F%2Fxn--a-%2F"⟩
      (World.fresh [] 1000 none) = (.broken failure, World.fresh [] 1000 none) := by
  obtain ⟨path, hp⟩ : ∃ path, (Client.ofSettings .standard).operationPath Path.accounts
      (some (identityOf [("subscription_id", "s")])) none [] = .ok path := ⟨_, rfl⟩
  have sound : Path.isSound false Path.accounts = true := by decide
  obtain ⟨problems, whole⟩ := buildPath_ok (sound_plain sound) hp
  have below : IsBelow path := by
    rw [whole]
    exact pathText_below sound (by decide) (nameValue_ne problems)
  have short : path.length + 30 ≤ lengthLimit := by
    rw [whole]
    decide +kernel
  have lists : Hub.Lists .standard
      ⟨"GET", "/subscriptions/s/accounts", some "page_token=https%3A%2F%2Fxn--a-%2F"⟩ path
      (some "https://xn--a-/") .accounts (identityOf [("subscription_id", "s")])
      (givenOptions ⟨none, none, none, none, none, none⟩) :=
    .accounts (by decide +kernel) rfl hp (by decide +kernel)
  have serves : Serves (Client.ofSettings .standard) standardBase path none :=
    ⟨standard_reaches below short, ⟨"management.azure.com", rfl⟩, standard_open.version,
      standard_open.fits⟩
  have paged := answer_paged lists serves (World.fresh [] 1000 none)
  have unread : (Hub.standard.client.isOwnHost "https://xn--a-/").toOption = none := by
    decide +kernel
  have continues : linkOf (some "https://xn--a-/") = some "https://xn--a-/" := by decide
  generalize answer _ _ _ = answered at paged ⊢
  obtain ⟨given, after⟩ := answered
  dsimp only at paged
  cases paged with
  | asked admitted =>
    rw [admitted _ continues] at unread
    cases unread
  | tokenless admitted =>
    rw [admitted _ continues] at unread
    cases unread
  | foreign named other =>
    cases continues.symm.trans named
    rw [other] at unread
    cases unread
  | unread named fails why => exact ⟨_, rfl⟩

end LakeAdmin.Gateway
