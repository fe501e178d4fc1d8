import LakeAdmin.Proofs.Gateway.Page
import LakeAdmin.Proofs.Service.Addressing
import LakeAdmin.Proofs.Service.Browsing
import LakeAdmin.Proofs.Service.Hearing

/-!
Requests to the gateway for which it turns to the service: for one page of a list, for all of a
list, for all accounts of a subscription by way of the cache, and for one account. They differ
in how many requests they take. What the service responds settles what comes of them.
-/

namespace LakeAdmin.Gateway

open Http Explorer

/-! ## Calls -/

/-- What the gateway does for a request with the service. -/
inductive Call where
  | page (operation : ListOperation) (path : String) (query : Option QueryOptions)
    (token : Option String)
  | whole (operation : ListOperation) (path : String)
  | cached (path : String) (sub : Option String) (refreshed : Bool)
  | account (path : String)

/-- A request leads to a call: its arguments are right, and the names in its path have
values. -/
inductive Hub.Leads (hub : Hub) (request : Request) : Call → Prop
  | page {operation : ListOperation} {path : String} {token : Option String}
      {identity : Identity} {query : Option QueryOptions}
      (lists : hub.Lists request path token operation identity query)
      (admitted : Admits hub.client token) :
      Hub.Leads hub request (.page operation path query token)
  | firewallRules {values : List (String × String)} {path : String}
      (leads : destination request.method (Text.Percent.decode request.path) =
        .route .firewallRules values)
      (named : hub.client.operationPath Path.firewallRules (some (identityOf values)) none [] =
        .ok path) :
      Hub.Leads hub request (.whole .firewallRules path)
  | storageAccounts {values : List (String × String)} {path : String}
      (leads : destination request.method (Text.Percent.decode request.path) =
        .route .storageAccounts values)
      (named : hub.client.operationPath Path.storageAccounts (some (identityOf values)) none [] =
        .ok path) :
      Hub.Leads hub request (.whole .storageAccounts path)
  | cached {values : List (String × String)} {path : String} {refreshed : Option Bool}
      (leads : destination request.method (Text.Percent.decode request.path) =
        .route .cachedAccounts values)
      (right : (Query.ofText request.query).read "force_refresh" Schema.Check.truth =
        .valid refreshed)
      (named : AccountsAt hub.client
        (subscriptionOf hub.client (identityOf values).subscription) none path) :
      Hub.Leads hub request (.cached path
        (subscriptionOf hub.client (identityOf values).subscription) (refreshed.getD false))
  | account {values : List (String × String)} {path : String}
      (leads : destination request.method (Text.Percent.decode request.path) =
        .route .account values)
      (named : hub.client.operationPath Path.account (some (identityOf values)) none [] =
        .ok path) :
      Hub.Leads hub request (.account path)

/-- A request for the accounts of a subscription, with the standard settings. -/
theorem standard_leads {path : String}
    (placed : AccountsAt (Client.ofSettings .standard) (some "s") none path) :
    Hub.standard.Leads ⟨"GET", "/subscriptions/s/accounts:cached", none⟩ (.cached path (some "s") false) := by
  have leads : destination "GET" (Text.Percent.decode "/subscriptions/s/accounts:cached") =
      .route .cachedAccounts [("subscription_id", "s")] := by decide +kernel
  have meant : subscriptionOf Hub.standard.client
      (identityOf [("subscription_id", "s")]).subscription = some "s" := by decide +kernel
  have right : (Query.ofText none).read "force_refresh" Schema.Check.truth = .valid none := rfl
  change AccountsAt Hub.standard.client _ none path at placed
  rw [← meant] at placed
  have whole := @Hub.Leads.cached .standard
    ⟨"GET", "/subscriptions/s/accounts:cached", none⟩ _ _ _ leads right placed
  rwa [meant] at whole

theorem leads_accounts {hub : Hub} {request : Request} {path : String} {sub : Option String}
    {refreshed : Bool} (leads : hub.Leads request (.cached path sub refreshed)) :
    AccountsAt hub.client sub none path := by
  generalize same : Call.cached path sub refreshed = call at leads
  cases leads <;> cases same
  assumption

/-- What a read of the cache finds for all accounts of a subscription. -/
def heldList (world : World) (sub : Option String) : Option (List Resource) :=
  (world.lists.get world.clock (listKey sub none)).1

/-- The cache as a call leaves it that stores nothing. -/
def Call.looked (world : World) : Call → ListCache (List Resource)
  | cached _ sub false => (world.lists.get world.clock (listKey sub none)).2
  | _ => world.lists

/-- The responses that the gateway hears from the service while it does a call. -/
inductive Call.Hears (client : Client) : Call → World → List Response → World → Prop
  | page {operation : ListOperation} {path : String} {query : Option QueryOptions}
      {token : Option String} {world after : World} {response : Response}
      (asked : (client.askPage operation path query (pageLink token)).run world =
        (.ok response, after)) :
      Call.Hears client (.page operation path query token) world [response] after
  | whole {operation : ListOperation} {path : String} {world after : World}
      {responses : List Response}
      (heard : client.Hears operation path none none world responses after) :
      Call.Hears client (.whole operation path) world responses after
  /-- The cache has the list, and the service is not asked. -/
  | held {path : String} {sub : Option String} {world : World} {accounts : List Resource}
      (found : heldList world sub = some accounts) :
      Call.Hears client (.cached path sub false) world [] world
  /-- The cache does not have the list, or is not asked for it. -/
  | walked {path : String} {sub : Option String} {refreshed : Bool} {world after : World}
      {responses : List Response} (absent : refreshed = true ∨ heldList world sub = none)
      (heard : client.Hears .accounts path none none
        { world with lists := Call.looked world (.cached path sub refreshed) } responses after) :
      Call.Hears client (.cached path sub refreshed) world responses after
  | account {path : String} {world after : World} {response : Response}
      (asked : (client.send "GET" path [] .null []).run world = (.ok response, after)) :
      Call.Hears client (.account path) world [response] after

/-! ## Answers -/

def itemsJson (items : List Resource) : Document := .obj (listMembers items)

/-- The document for one account; null if the response is blank. -/
def accountJson (response : Response) : Except Failure Document :=
  (response.resource [200]).map fun found =>
    .obj [("ok", .bool true), ("account", found.elim .null resourceJson)]

/-- What a call comes to: a document, or the failure that there is none. -/
inductive Call.Yields : Call → World → List Response → Except Failure Document → Prop
  | page {operation : ListOperation} {path : String} {query : Option QueryOptions}
      {token : Option String} {world : World} {response : Response} :
      Call.Yields (.page operation path query token) world [response]
        (response.resources.map pageJson)
  | whole {operation : ListOperation} {path : String} {world : World}
      {responses : List Response} :
      Call.Yields (.whole operation path) world responses ((itemsOf responses).map itemsJson)
  | held {path : String} {sub : Option String} {world : World} {accounts : List Resource}
      (found : heldList world sub = some accounts) :
      Call.Yields (.cached path sub false) world [] (.ok (itemsJson accounts))
  | walked {path : String} {sub : Option String} {refreshed : Bool} {world : World}
      {responses : List Response} (absent : refreshed = true ∨ heldList world sub = none) :
      Call.Yields (.cached path sub refreshed) world responses
        ((itemsOf responses).map itemsJson)
  | account {path : String} {world : World} {response : Response} :
      Call.Yields (.account path) world [response] (accountJson response)

/-- The answer with a document, or to a failure. -/
def settle (room : Room) : Except Failure Document → Answer
  | .ok value => .ofJson room 200 value
  | .error failure => (ofFailure room failure).2

/-- How a call ends that hears some responses, the last of them in a world after: it is answered
with what it comes to, nothing is done but to note that, and a call that fails stores nothing. -/
def Call.Ends (room : Room) (call : Call) (world : World) (responses : List Response)
    (after : World) (answered : Answer × World) : Prop :=
  ∃ result, call.Yields world responses result ∧ answered.1 = settle room result ∧
    after.Quiet answered.2 ∧
    ((∃ failure, result = .error failure) → answered.2.lists = call.looked world)

/-- A call ends as the work does that is done for it. -/
theorem complete_ends {room : Room} {call : Call} {action : Action Document}
    {world after final : World} {responses : List Response} {result : Except Failure Document}
    (yields : call.Yields world responses result) (ran : action.run world = (result, final))
    (quiet : after.Quiet final)
    (kept : (∃ failure, result = .error failure) → final.lists = call.looked world) :
    call.Ends room world responses after (complete room action world) := by
  cases result with
  | ok value =>
    rw [complete_ok ran]
    exact ⟨.ok value, yields, rfl, quiet, nofun⟩
  | error failure =>
    obtain ⟨answered, same | ⟨line, noted⟩⟩ := complete_error ran
    · refine ⟨.error failure, yields, answered, ?_, ?_⟩
      · rw [same]
        exact quiet
      · rw [same]
        exact kept
    · refine ⟨.error failure, yields, answered, ?_, ?_⟩
      · rw [noted]
        exact quiet.trans (quiet_noted final line)
      · rw [noted]
        exact kept

theorem run_document {α : Type} {action : Action α} {world after : World}
    {result : Except Failure α} (document : α → Document)
    (ran : action.run world = (result, after)) :
    (action >>= fun a => pure (document a)).run world = (result.map document, after) := by
  cases result with
  | ok a => exact Action.run_bind_ok ran
  | error failure => exact Action.run_bind_error ran

section Work

variable {client : Client} {operation : ListOperation} {path : String}
  {query : Option QueryOptions} {token : Option String} {world after : World}
  {response : Response} {responses : List Response}

theorem page_run (admitted : Admits client token)
    (asked : (client.askPage operation path query (pageLink token)).run world =
      (.ok response, after)) :
    (onePage client ⟨client.fetchPage operation path (queryParams query), none⟩ token).run world =
      (response.resources.map pageJson, after) := by
  rw [onePage_admitted admitted]
  dsimp only
  rw [fetchPage_ask, Action.run_bind_ok asked, Action.run_ofExcept]

theorem items_run (operation : ListOperation) {identity : Option Identity}
    (named : client.operationPath operation.path identity none [] = .ok path)
    (heard : client.Hears operation path none none world responses after) :
    (do
      let pager ← Action.ofExcept id (client.list operation identity none)
      collect pager : Action (List Resource)).run world = (itemsOf responses, after) := by
  rw [list_run operation named]
  exact collect_heard heard

/-- A list that the cache does not have, or is not asked for, is the one that is heard. One that
cannot be had leaves in the cache what a look at it left. -/
theorem listAccounts_walked {subscription : Option String} {refreshed : Bool}
    (named : AccountsAt client (subscriptionOf client subscription) none path)
    (absent : refreshed = true ∨ heldList world (subscriptionOf client subscription) = none)
    (heard : client.Hears .accounts path none none
      { world with
        lists := Call.looked world (.cached path (subscriptionOf client subscription) refreshed) }
      responses after) :
    ∃ final, (listAccounts client subscription refreshed none).run world =
        (itemsOf responses, final) ∧ after.Quiet final ∧
      ((∃ failure, itemsOf responses = .error failure) → final.lists =
        Call.looked world (.cached path (subscriptionOf client subscription) refreshed)) := by
  obtain ⟨final, ran, quiet, -, lists⟩ := refresh_heard named heard
  refine ⟨final, ?_, quiet, ?_⟩
  · cases refreshed with
    | true => exact ran
    | false => exact (listAccounts_missed client subscription (absent.resolve_left nofun)).trans ran
  · rintro ⟨failure, failed⟩
    rw [lists, failed]

theorem getAccount_run {identity : Identity}
    (named : client.operationPath Path.account (some identity) none [] = .ok path)
    (world : World) :
    (client.call .getAccount (some identity) (.plain .null) none).run world =
      (client.send "GET" path [] .null [] >>= fun response =>
        Action.ofExcept id (Reading.resource.read [200] response)).run world :=
  call_run rfl named world

theorem account_run {identity : Identity}
    (named : client.operationPath Path.account (some identity) none [] = .ok path)
    (asked : (client.send "GET" path [] .null []).run world = (.ok response, after)) :
    (do
      let found ← client.call .getAccount (some identity) (.plain .null) none
      let account := match found with
        | .resource resource => resourceJson resource
        | _ => .null
      return .obj [("ok", .bool true), ("account", account)] : Action Document).run world =
      (accountJson response, after) := by
  have called : (client.call .getAccount (some identity) (.plain .null) none).run world =
      (Reading.resource.read [200] response, after) := by
    rw [getAccount_run named, Action.run_bind_ok asked]
    exact Action.run_ofExcept _ _
  unfold accountJson
  unfold Reading.read at called
  dsimp only at called
  cases read : response.resource [200] with
  | error failure =>
    rw [read] at called
    exact Action.run_bind_error called
  | ok found =>
    rw [read] at called
    cases found <;> exact Action.run_bind_ok called

end Work

theorem answer_route (hub : Hub) {request : Request} {route : Route}
    {values : List (String × String)} {action : Action Document}
    (leads : destination request.method (Text.Percent.decode request.path) = .route route values)
    (right : work hub route values (Query.ofText request.query) = .valid action)
    (world : World) : answer hub request world = complete hub.room action world := by
  unfold answer
  rw [leads]
  dsimp only
  rw [right]

/-- The responses that are heard settle what a call comes to, and how it is answered. -/
theorem answer_ends {hub : Hub} {request : Request} {call : Call} {world after : World}
    {responses : List Response} (leads : hub.Leads request call)
    (hears : call.Hears hub.client world responses after) :
    call.Ends hub.room world responses after (answer hub request world) := by
  cases leads with
  | @page operation path token identity query lists admitted =>
    cases hears with
    | page asked =>
      have spared := spares_askPage hub.client operation path query (pageLink token) world
      rw [asked] at spared
      rw [answer_lists lists]
      exact complete_ends .page (page_run admitted asked) (quiet_same rfl) fun _ => spared.lists
  | firewallRules leads named =>
    cases hears with
    | whole heard =>
      have ran := run_document itemsJson (items_run .firewallRules named heard)
      rw [answer_route hub leads rfl]
      exact complete_ends .whole ran (quiet_same rfl) fun _ => (hears_spares heard nofun).lists
  | storageAccounts leads named =>
    cases hears with
    | whole heard =>
      have ran := run_document itemsJson (items_run .storageAccounts named heard)
      rw [answer_route hub leads rfl]
      exact complete_ends .whole ran (quiet_same rfl) fun _ => (hears_spares heard nofun).lists
  | @cached values path refreshed leads right named =>
    rw [answer_route hub leads (congrArg (Schema.Checked.map _) right)]
    dsimp only
    generalize refreshed.getD false = forced at hears ⊢
    cases hears with
    | held found =>
      obtain ⟨entry, there, fresh, value⟩ := ListCache.get_some.mp found
      have ran := listAccounts_held hub.client _ there
        ((ListCache.isExpired_fresh world.lists world.clock entry).mp fresh) value
      exact complete_ends (.held found) (run_document itemsJson ran) (quiet_same rfl) nofun
    | walked absent heard =>
      obtain ⟨final, ran, quiet, stored⟩ := listAccounts_walked named absent heard
      refine complete_ends (.walked absent) (run_document itemsJson ran) quiet ?_
      rintro ⟨failure, failed⟩
      exact stored ⟨failure, map_error failed⟩
  | @account values path leads named =>
    cases hears with
    | account asked =>
      have spared := spares_send hub.client "GET" path [] .null [] world
      rw [asked] at spared
      rw [answer_route hub leads rfl]
      exact complete_ends .account (account_run named asked) (quiet_same rfl) fun _ => spared.lists

end LakeAdmin.Gateway
