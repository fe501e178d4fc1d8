import LakeAdmin.Pager
import LakeAdmin.Service.Poller

/-!
The operations of the service: four collections of resources, the accounts and what
is linked to each. Every operation has a path, a method and the statuses that mean
success. Arguments are looked at before anything is sent: first the body, then the
names and options.
-/

namespace LakeAdmin

open Http LakeAdmin.Path

/-! ## Paths -/

namespace Path

/-- The namespace of the service in every path. -/
def provider : List Segment := [.fixed "providers", .fixed "Microsoft.DataLakeAnalytics"]

def inSubscription : List Segment := [.fixed "subscriptions", .named "subscription_id"]

def accounts : List Segment := inSubscription ++ provider ++ [.fixed "accounts"]

def accountsOfGroup : List Segment :=
  inSubscription ++ [.fixed "resourceGroups", .named "resource_group_name"] ++ provider ++
    [.fixed "accounts"]

def account : List Segment := accountsOfGroup ++ [.named "account_name"]

def nameLookup : List Segment :=
  inSubscription ++ provider ++
    [.fixed "locations", .named "location", .fixed "checkNameAvailability"]

def storageAccounts : List Segment := account ++ [.fixed "storageAccounts"]

def storageAccount : List Segment := storageAccounts ++ [.named "child_name"]

def containers : List Segment := storageAccount ++ [.fixed "containers"]

def container : List Segment := containers ++ [.named "grandchild_name"]

def sasTokens : List Segment := container ++ [.fixed "listSasTokens"]

def firewallRules : List Segment := account ++ [.fixed "firewallRules"]

def firewallRule : List Segment := firewallRules ++ [.named "child_name"]

def storeAccounts : List Segment := account ++ [.fixed "dataLakeStoreAccounts"]

def storeAccount : List Segment := storeAccounts ++ [.named "child_name"]

end Path

/-! ## Operations -/

inductive ListOperation where
  | accounts
  | accountsOfGroup
  | storageAccounts
  | containers
  | sasTokens
  | firewallRules
  | storeAccounts
  deriving DecidableEq, Repr

/-- The operations that take one request. -/
inductive CallOperation where
  | getAccount
  | beginCreateAccount
  | beginUpdateAccount
  | beginDeleteAccount
  | lookUpName
  | addStorageAccount
  | getStorageAccount
  | updateStorageAccount
  | deleteStorageAccount
  | getContainer
  | putFirewallRule
  | getFirewallRule
  | updateFirewallRule
  | deleteFirewallRule
  | addStoreAccount
  | getStoreAccount
  | deleteStoreAccount
  deriving DecidableEq, Repr

/-- The operations that are waited for. -/
inductive LongOperation where
  | createAccount
  | updateAccount
  | deleteAccount
  deriving DecidableEq, Repr

namespace ListOperation

def path : ListOperation → List Segment
  | accounts => Path.accounts
  | accountsOfGroup => Path.accountsOfGroup
  | storageAccounts => Path.storageAccounts
  | containers => Path.containers
  | sasTokens => Path.sasTokens
  | firewallRules => Path.firewallRules
  | storeAccounts => Path.storeAccounts

/-- The method of the first request. Access signatures are made on demand. -/
def method : ListOperation → String
  | sasTokens => "POST"
  | _ => "GET"

end ListOperation

/-- What the answer of an operation is read as. -/
inductive Reading where
  | resource
  | document
  | nothing
  deriving DecidableEq, Repr

inductive Answer where
  | nothing
  | resource (resource : Resource)
  | document (value : Document)

/-- What an operation takes as its body. Where parameters are optional, none are like
empty ones. -/
inductive BodyRule where
  | none
  | required (kind : BodyKind)
  | optional (kind : BodyKind)
  deriving DecidableEq, Repr

namespace CallOperation

def path : CallOperation → List Segment
  | getAccount | beginCreateAccount | beginUpdateAccount | beginDeleteAccount => Path.account
  | lookUpName => Path.nameLookup
  | addStorageAccount | getStorageAccount | updateStorageAccount | deleteStorageAccount =>
    Path.storageAccount
  | getContainer => Path.container
  | putFirewallRule | getFirewallRule | updateFirewallRule | deleteFirewallRule =>
    Path.firewallRule
  | addStoreAccount | getStoreAccount | deleteStoreAccount => Path.storeAccount

def method : CallOperation → String
  | getAccount | getStorageAccount | getContainer | getFirewallRule | getStoreAccount => "GET"
  | beginCreateAccount | addStorageAccount | putFirewallRule | addStoreAccount => "PUT"
  | beginUpdateAccount | updateStorageAccount | updateFirewallRule => "PATCH"
  | beginDeleteAccount | deleteStorageAccount | deleteFirewallRule | deleteStoreAccount =>
    "DELETE"
  | lookUpName => "POST"

/-- The statuses that mean success. -/
def success : CallOperation → List Int
  | beginCreateAccount => [200, 201]
  | beginUpdateAccount => [200, 201, 202]
  | beginDeleteAccount => [200, 202, 204]
  | deleteFirewallRule => [200, 204]
  | _ => [200]

def bodyRule : CallOperation → BodyRule
  | beginCreateAccount => .required .createAccount
  | beginUpdateAccount => .optional .updateAccount
  | lookUpName => .required .nameLookup
  | addStorageAccount => .required .addStorage
  | updateStorageAccount => .optional .updateStorage
  | putFirewallRule => .required .firewallRule
  | updateFirewallRule => .optional .updateFirewallRule
  | addStoreAccount => .optional .addStore
  | _ => .none

/-- What the answer is read as, and whether it is part of the result. -/
def reading : CallOperation → Reading
  | lookUpName => .document
  | beginDeleteAccount | addStorageAccount | updateStorageAccount | deleteStorageAccount |
    deleteFirewallRule | addStoreAccount | deleteStoreAccount => .nothing
  | _ => .resource

end CallOperation

namespace LongOperation

/-- The method of the first request. -/
def method : LongOperation → String
  | createAccount => "PUT"
  | updateAccount => "PATCH"
  | deleteAccount => "DELETE"

/-- The statuses with which the service accepts the operation. -/
def success : LongOperation → List Int
  | createAccount => [200, 201]
  | updateAccount => [200, 201, 202]
  | deleteAccount => [200, 202, 204]

def bodyRule : LongOperation → BodyRule
  | createAccount => .required .createAccount
  | updateAccount => .optional .updateAccount
  | deleteAccount => .none

/-- Whether the resource is read once the operation is done. -/
def readsBack : LongOperation → Bool
  | deleteAccount => false
  | _ => true

end LongOperation

/-! ## Arguments -/

/-- The value of a kind that parameters make up, or all that is wrong with them. The
problems are named after `name`. -/
def BodyKind.validate (kind : BodyKind) (name : String) (parameters : Parameters) :
    Except Failure kind.Value :=
  match parameters with
  | .plain .null => .error (.invalidArgument [.missing name])
  | parameters =>
    match kind.ofParameters parameters with
    | .valid value => .ok value
    | .invalid issues => .error (.invalidArgument (issues.map (.schema name)))

/-- The name of the parameters in problems. -/
def parametersName : String := "parameters"

/-- The body to send for parameters; null if the operation takes none. -/
def BodyRule.body (rule : BodyRule) (parameters : Parameters) : Except Failure Json := do
  match rule, parameters with
  | .none, _ => return .null
  | .required kind, parameters =>
    let value ← kind.validate parametersName parameters
    return .obj (kind.toBody value)
  | .optional kind, .plain .null =>
    let value ← kind.validate parametersName (.plain (.obj []))
    return .obj (kind.toBody value)
  | .optional kind, parameters =>
    let value ← kind.validate parametersName parameters
    return .obj (kind.toBody value)

/-- The identity that a call works in: without a subscription, the one of the client. -/
def Client.scope (client : Client) (identity : Option Identity) : Identity :=
  let identity := identity.getD Identity.empty
  match identity.subscription, client.subscription with
  | none, some subscription =>
    if subscription = "" then identity else { identity with subscription := some subscription }
  | _, _ => identity

def Client.operationPath (client : Client) (segments : List Segment)
    (identity : Option Identity) (query : Option QueryOptions) (extra : Client.PathValues) :
    Except Failure String :=
  Client.buildPath (Template.ofSegments segments) (some (client.scope identity)) query extra

/-! ## Running operations -/

def queryParams (query : Option QueryOptions) : Members :=
  (query.elim [] QueryOptions.toParams).map fun (name, value) => (name, .str value)

def listSuccess : List Int := [200]

/-- Fetches a page of a list whose first page is at `path`. -/
def Client.fetchPage (client : Client) (operation : ListOperation) (path : String)
    (params : Members) : PageSource World Failure Resource := fun token =>
  Action.run do
    let response ← match token with
      | none => client.send operation.method path params .null []
      | some link => client.follow link
    Action.ofExcept id (response.page Resource.check listSuccess)

/-- The pager of a list, once its arguments are found to be right. -/
def Client.list (client : Client) (operation : ListOperation) (identity : Option Identity)
    (query : Option QueryOptions) : Except Failure (Pager World Failure Resource) := do
  let path ← client.operationPath operation.path identity query []
  return ⟨client.fetchPage operation path (queryParams query), none⟩

def Reading.read (reading : Reading) (success : List Int) (response : Response) :
    Except Failure Answer := do
  match reading with
  | .resource =>
    let found ← response.resource success
    return found.elim .nothing .resource
  | .document =>
    let found ← response.documentIfAny success
    return found.elim .nothing .document
  | .nothing =>
    let _ ← response.documentIfAny success
    return .nothing

/-- Runs a call. The location is only used where names are looked up. -/
def Client.call (client : Client) (operation : CallOperation) (identity : Option Identity)
    (parameters : Parameters) (location : Option String) : Action Answer := do
  let body ← Action.ofExcept id (operation.bodyRule.body parameters)
  let extra := if operation = .lookUpName then [("location", location)] else []
  let path ← Action.ofExcept id (client.operationPath operation.path identity none extra)
  let response ← client.send operation.method path [] body []
  Action.ofExcept id (operation.reading.read operation.success response)

/-- Runs an operation and waits until it is done. -/
def Client.runLong (client : Client) (operation : LongOperation) (identity : Option Identity)
    (parameters : Parameters) : Action Answer := do
  let body ← Action.ofExcept id (operation.bodyRule.body parameters)
  let path ← Action.ofExcept id (client.operationPath Path.account identity none [])
  let response ← client.send operation.method path [] body []
  Action.ofExcept id (response.requireSuccess operation.success)
  let final ← Poller.wait client response (if operation.readsBack then some path else none)
  if operation.readsBack then
    Action.ofExcept id (Reading.resource.read [200, 201, 204] final)
  else return .nothing

end LakeAdmin
