import LakeAdmin.Gateway.Route
import LakeAdmin.Service.Explorer

/-!
What the gateway answers. Lists come one page at a time, with a token for the next
page, or whole. Wrong arguments are answered with 400, failures of the service with
502. Any other failure breaks the answer off.
-/

namespace LakeAdmin

/-! ## Names and secrets -/

namespace Text

/-- The place that an index points at: a negative index counts from the end, and an
index beyond an end points at that end. -/
def clampIndex (size : Nat) (index : Int) : Nat :=
  if index < 0 then (index + size).toNat else min index.toNat size

/-- A text without what lies between its first `head` and its last `tail` characters.
The end begins at the index `-tail`, so that a tail of zero is the whole text. -/
def mask (head tail : Int) (s : String) : String :=
  let l := s.toList
  if l.isEmpty ∨ l.length ≤ head + tail then s
  else
    String.ofList (l.take (clampIndex l.length head)) ++ "..." ++
      String.ofList (l.drop (clampIndex l.length (-tail)))

end Text

namespace Gateway

open Http

/-- How secrets and names are shown. -/
def masked (value : Option String) : Option String := value.map (Text.mask 6 4)

/-! ## Answers -/

/-- How many arrays and objects may be open at once in what is written under a status. What
the gateway has to say for itself always fits. -/
structure Room where
  levels : Int → Nat
  ample (status : Int) : 4 ≤ levels status

/-- The gateway: its settings, the client it reaches the service with, and the room for what
it writes. -/
structure Hub where
  settings : Settings
  client : Client
  room : Room

inductive Content where
  | json (value : Document)
  | text (s : String)

/-- An answer of the gateway, with the failure that broke it off, if one did. -/
structure Answer where
  status : Int
  content : Content
  location : Option String
  allow : Option String
  raised : Option Failure

namespace Answer

/-- The answer that a failure breaks off. -/
def broken (failure : Failure) : Answer :=
  ⟨500, .text "Internal Server Error", none, none, some failure⟩

/-- What keeps a document from being written with room for so many levels. -/
def obstacle? (levels : Nat) (value : Document) : Option Failure :=
  if levels < value.depth then some .tooDeep
  else if !value.isFinite then some .notStandardJson
  else if !value.isPlain then some .notUnicode
  else none

/-- An answer with a document, if it can be written. -/
def ofJson (room : Room) (status : Int) (value : Document) : Answer :=
  match obstacle? (room.levels status) value with
  | some failure => broken failure
  | none => ⟨status, .json value, none, none, none⟩

def ofDetail (status : Int) (allow : Option String) (message : String) : Answer :=
  ⟨status, .json (.obj [("detail", .str message)]), none, allow, none⟩

end Answer

/-- Notes in the log what the gateway works with. -/
def startUp (settings : Settings) : Action Unit :=
  Action.note (.configured settings.baseUrl settings.apiVersion (masked settings.subscription)
    (masked settings.clientId))

/-- A resource without its null members. -/
def resourceJson (resource : Resource) : Document := .obj resource.toMembers.present

def listMembers (resources : List Resource) : Members Wide := [
  ("ok", .bool true),
  ("count", .int resources.length),
  ("items", .arr (resources.map resourceJson))]

/-- A page with the token of the next one. -/
def pageJson (page : Page Resource) : Document :=
  let link : Members Wide := [("next_page_token", Json.ofText? page.nextLink)]
  .obj (listMembers page.items ++ link)

/-- One page of a list: the first, or the one that a token on the own host names. -/
def onePage (client : Client) (pager : Pager World Failure Resource) (token : Option String) :
    Action Document := do
  if let some link := token.filter (· ≠ "") then
    if !(← Action.ofExcept id (client.isOwnHost link)) then
      throw (.invalidArgument [.tokenForeign])
  let page ← fun world => pager.fetchPage (token.map .plain) world
  return pageJson page

def givenOptions (query : QueryOptions) : Option QueryOptions :=
  if query.toParams.isEmpty then none else some query

def accountOptions (query : Query) : Schema.Checked QueryOptions :=
  (fun top skip count =>
    ⟨query.get? "filter", top, skip, query.get? "select", query.get? "orderby", count⟩) <$>
    query.read "top" Schema.Check.integer <*> query.read "skip" Schema.Check.integer <*>
    query.read "count" Schema.Check.truth

def groupOptions (query : Query) : Schema.Checked QueryOptions :=
  (fun top => ⟨query.get? "filter", top, none, none, none, none⟩) <$>
    query.read "top" Schema.Check.integer

def overview : Document := .obj [
  ("service", .str "datalake-hub"),
  ("endpoints", .obj [
    ("health", .str "/health"),
    ("accounts", .str "GET /subscriptions/\x7bsub\x7d/accounts?page_token="),
    ("accounts_by_rg",
      .str "GET /subscriptions/\x7bsub\x7d/resourceGroups/\x7brg\x7d/accounts?page_token="),
    ("account",
      .str "GET /subscriptions/\x7bsub\x7d/resourceGroups/\x7brg\x7d/accounts/\x7bname\x7d"),
    ("firewall_rules",
      .str ("GET /subscriptions/\x7bsub\x7d/resourceGroups/\x7brg\x7d/accounts/" ++
        "\x7bname\x7d/firewallRules")),
    ("storage_accounts",
      .str ("GET /subscriptions/\x7bsub\x7d/resourceGroups/\x7brg\x7d/accounts/" ++
        "\x7bname\x7d/storageAccounts")),
    ("cached", .str "GET /subscriptions/\x7bsub\x7d/accounts:cached?force_refresh="),
    ("cache_clear", .str "POST /cache:clear"),
    ("docs", .str "/docs")])]

def health (settings : Settings) : Document := .obj [
  ("ok", .bool true),
  ("service", .str "datalake-hub"),
  ("arm_base_url", .str settings.baseUrl),
  ("api_version", .str settings.apiVersion),
  ("subscription", Json.ofText? ((masked settings.subscription).map .plain))]

def identityOf (values : List (String × String)) : Identity := {
  Identity.empty with
  subscription := values.lookup "subscription_id"
  resourceGroup := values.lookup "resource_group"
  account := values.lookup "account" }

/-- The work of a route, once its parameters are found to be right. -/
def work (hub : Hub) (route : Route) (values : List (String × String)) (query : Query) :
    Schema.Checked (Action Document) :=
  let identity := identityOf values
  let paged := fun (operation : ListOperation) (options : QueryOptions) => do
    let pager ← Action.ofExcept id
      (hub.client.list operation (some identity) (givenOptions options))
    onePage hub.client pager (query.get? "page_token")
  match route with
  | .health => .valid (pure (health hub.settings))
  | .overview => .valid (pure overview)
  | .accounts => (accountOptions query).map (paged .accounts)
  | .accountsOfGroup => (groupOptions query).map (paged .accountsOfGroup)
  | .account => .valid do
    let found ← hub.client.call .getAccount (some identity) (.plain .null) none
    let account := match found with
      | .resource resource => resourceJson resource
      | _ => .null
    return .obj [("ok", .bool true), ("account", account)]
  | .firewallRules => .valid do
    let rules ← Explorer.firewallRules hub.client (some identity)
    return .obj (listMembers rules)
  | .storageAccounts => .valid do
    let accounts ← Explorer.storageAccounts hub.client (some identity)
    return .obj (listMembers accounts)
  | .cachedAccounts => (query.read "force_refresh" Schema.Check.truth).map fun refreshed => do
    let accounts ←
      Explorer.listAccounts hub.client identity.subscription (refreshed.getD false) none
    return .obj (listMembers accounts)
  | .clearCache => .valid do
    let removed ← match (query.get? "subscription_id").filter (· ≠ "") with
      | some subscription => Explorer.invalidate hub.client (some subscription)
      | none => Explorer.clear
    return .obj [("ok", .bool true), ("removed", .int removed)]

def faultJson (fault : Fault) : Document := .obj [
  ("ok", .bool false),
  ("error", .str "upstream_fault"),
  ("upstream_status", .int fault.status),
  ("upstream_body", fault.body)]

/-- The answer to a failure, with what is noted of it. -/
def ofFailure (room : Room) : Failure → Option Note × Answer
  | .invalidArgument problems => (none, .ofJson room 400 (.obj [
      ("ok", .bool false),
      ("error", .str "invalid_argument"),
      ("details", .arr (problems.map fun problem => .str problem.message))]))
  | .fault fault => (some (.faultPassedOn fault), .ofJson room 502 (faultJson fault))
  | .operationFailed fault _ => (some (.faultPassedOn fault), .ofJson room 502 (faultJson fault))
  | .malformed status _ reason =>
    (some (.malformedPassedOn status reason), .ofJson room 502 (.obj [
      ("ok", .bool false),
      ("error", .str "malformed_upstream_response"),
      ("upstream_status", .int status),
      ("detail", .str reason.message)]))
  | failure => (none, .broken failure)

/-- Runs the work of a route to its answer. -/
def complete (room : Room) (action : Action Document) (world : World) : Answer × World :=
  match action.run world with
  | (.ok value, world) => (.ofJson room 200 value, world)
  | (.error failure, world) =>
    match ofFailure room failure with
    | (some note, answer) => (answer, world.record (.noted note))
    | (none, answer) => (answer, world)

/-- Characters that stay as they are where the caller is sent on to. -/
def isLocationChar (c : Char) : Bool :=
  Text.Percent.isUnreserved c || ":/%#?=@[]!$&'()*+,;".toList.contains c

/-- Where the caller is sent on to for another spelling of the path. -/
def locationOf (path : String) (query : Option String) : String :=
  Text.Percent.encode isLocationChar ("http://hub.test" ++ path ++
    match query.filter (· ≠ "") with
    | some text => "?" ++ text
    | none => "")

def answer (hub : Hub) (request : Request) (world : World) : Answer × World :=
  match destination request.method (Text.Percent.decode request.path) with
  | .nowhere => (.ofDetail 404 none "Not Found", world)
  | .wrongMethod allowed => (.ofDetail 405 (some allowed) "Method Not Allowed", world)
  | .redirect path =>
    (⟨307, .text "", some (locationOf path request.query), none, none⟩, world)
  | .route route values =>
    let query := Query.ofText request.query
    match work hub route values query with
    | .valid action => complete hub.room action world
    | .invalid issues =>
      (.ofJson hub.room 422 (.obj [("detail", .arr (issues.map (issueJson query)))]), world)

end Gateway

end LakeAdmin
