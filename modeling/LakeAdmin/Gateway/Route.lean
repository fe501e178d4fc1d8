import LakeAdmin.Path.Template
import LakeAdmin.Schema.Scalar
import LakeAdmin.Text.Form

/-!
The routes of the gateway, and which of them a request takes. A path is decoded before
it is compared, so an encoded slash separates segments. A named segment takes any text
that is not empty.
-/

namespace LakeAdmin.Gateway

open LakeAdmin.Path Text

/-- A request to the gateway: its path as it was sent, and its query. -/
structure Request where
  method : String
  path : String
  query : Option String
  deriving DecidableEq, Repr

/-- What the gateway offers. -/
inductive Route where
  | health
  | overview
  | accounts
  | accountsOfGroup
  | account
  | firewallRules
  | storageAccounts
  | cachedAccounts
  | clearCache
  deriving DecidableEq, Repr

namespace Route

/-- All routes, in the order in which they are tried. -/
def all : List Route := [
  health, overview, accounts, accountsOfGroup, account, firewallRules, storageAccounts,
  cachedAccounts, clearCache]

def method : Route → String
  | clearCache => "POST"
  | _ => "GET"

def inSubscription : List Segment := [.fixed "subscriptions", .named "subscription_id"]

/-- The part of a pattern that names the accounts of a resource group. -/
def inGroup : List Segment :=
  inSubscription ++ [.fixed "resourceGroups", .named "resource_group", .fixed "accounts"]

/-- The segments of a route's path. -/
def pattern : Route → List Segment
  | health => [.fixed "health"]
  | overview => [.fixed ""]
  | accounts => inSubscription ++ [.fixed "accounts"]
  | accountsOfGroup => inGroup
  | account => inGroup ++ [.named "account"]
  | firewallRules => inGroup ++ [.named "account", .fixed "firewallRules"]
  | storageAccounts => inGroup ++ [.named "account", .fixed "storageAccounts"]
  | cachedAccounts => inSubscription ++ [.fixed "accounts:cached"]
  | clearCache => [.fixed "cache:clear"]

end Route

/-- The values of the named segments, if segments fit a pattern. A line feed may stand
behind a fixed segment at the end. -/
def matchSegments : List Segment → List (List Char) → Option (List (String × String))
  | [], [] => some []
  | .fixed text :: pattern, segment :: rest =>
    if segment = text.toList ∨ (rest = [] ∧ segment = text.toList ++ ['\n']) then
      matchSegments pattern rest
    else none
  | .named name :: pattern, segment :: rest =>
    if segment.isEmpty then none
    else (matchSegments pattern rest).map ((name, String.ofList segment) :: ·)
  | _, _ => none

/-- The values of the named segments, if a decoded path fits a route. -/
def Route.values? (route : Route) (path : String) : Option (List (String × String)) :=
  match splitAt '/' path.toList with
  | [] :: segments => matchSegments route.pattern segments
  | _ => none

inductive Destination where
  | route (route : Route) (values : List (String × String))
  | wrongMethod (allowed : String)
  | redirect (path : String)
  | nowhere
  deriving DecidableEq, Repr

/-- Whether some route has a path. -/
def isKnown (path : String) : Bool := Route.all.any fun route => (route.values? path).isSome

/-- A path with the slashes at its end taken off, or with one put there. -/
def otherSpelling (path : String) : String :=
  if path.toList.getLast? = some '/' then dropTrailing (· = '/') path else path ++ "/"

/-- Where a method and a decoded path lead. -/
def destination (method path : String) : Destination :=
  let fitting := Route.all.filterMap fun route => (route.values? path).map (route, ·)
  match fitting.find? fun (route, _) => route.method == method, fitting with
  | some (route, values), _ => .route route values
  | none, (route, _) :: _ => .wrongMethod route.method
  | none, [] =>
    if path ≠ "/" && isKnown (otherSpelling path) then .redirect (otherSpelling path)
    else .nowhere

/-! ## Parameters -/

/-- The parameters of a query; of a repeated one the last value counts. -/
structure Query where
  pairs : List (String × String)
  deriving DecidableEq, Repr

namespace Query

def ofText (text : Option String) : Query := ⟨Form.decode (text.getD "")⟩

def get? (query : Query) (name : String) : Option String := query.pairs.reverse.lookup name

/-- A parameter that is not a text, if it is given. -/
def read (query : Query) (name : String) (check : Schema.Check α) : Schema.Checked (Option α) :=
  match query.get? name with
  | some text => ((check (.str text)).map some).under name
  | none => .valid none

end Query

/-- What is reported of a parameter that does not fit. -/
def issueJson (query : Query) (issue : Schema.Issue) : Document :=
  let type : String := match issue.cause with
    | .unreadableTruth => "bool_parsing"
    | .hugeInteger => "int_parsing_size"
    | _ => "int_parsing"
  .obj [
    ("type", .str type),
    ("loc", .arr (.str "query" :: issue.path.map fun name => .str (.plain name))),
    ("msg", .str issue.cause.message),
    ("input", Json.ofText? ((query.get? issue.place).map .plain))]

end LakeAdmin.Gateway
