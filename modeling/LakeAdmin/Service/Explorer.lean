import LakeAdmin.Service.Operation

/-!
Browsing the service. Lists of accounts are kept in a cache, each under its
subscription and options. An account that is created or deleted here makes every list
of its subscription stale, so these are dropped.
-/

namespace LakeAdmin.Explorer

open Http

/-- The subscription that is meant: the given one, or that of the client. -/
def subscriptionOf (client : Client) (subscription : Option String) : Option String :=
  match subscription.filter (· ≠ "") with
  | some given => some given
  | none => client.subscription

/-- The first part of the keys of account lists. -/
def accountsKey : CacheKey := .plain (.str "accounts")

def subscriptionKey (subscription : Option String) : List CacheKey :=
  [accountsKey, .plain (Json.ofText? subscription)]

def listKey (subscription : Option String) (query : Option QueryOptions) : CacheKey :=
  .tuple (subscriptionKey subscription ++ [query.elim (.plain .null) .query])

def collect (pager : Pager World Failure Resource) : Action (List Resource) := fun world =>
  pager.collect world.leave none world

def lookUp (key : CacheKey) : Action (Option (List Resource)) := do
  let world ← get
  let (found, lists) := world.lists.get world.clock key
  set { world with lists := lists }
  return found

/-- Walks the service for a list of accounts and stores it. -/
def refresh (client : Client) (subscription : Option String) (query : Option QueryOptions) :
    Action (List Resource) := do
  let identity := { Identity.empty with subscription := subscription }
  let pager ← Action.ofExcept id (client.list .accounts (some identity) query)
  let accounts ← collect pager
  Action.note (.listed accounts.length subscription)
  modify fun world => { world with
    lists := world.lists.put world.clock (listKey subscription query) (some accounts) }
  return accounts

/-- The accounts of a subscription, from the cache if it holds them and no refresh is
asked for. -/
def listAccounts (client : Client) (subscription : Option String) (refreshed : Bool)
    (query : Option QueryOptions) : Action (List Resource) := do
  let subscription := subscriptionOf client subscription
  if refreshed then refresh client subscription query
  else
    match ← lookUp (listKey subscription query) with
    | some accounts => return accounts
    | none => refresh client subscription query

/-- Drops the lists of a subscription, and tells how many there were. -/
def invalidate (client : Client) (subscription : Option String) : Action Nat := do
  let world ← get
  let parts := subscriptionKey (subscriptionOf client subscription)
  let (gone, lists) := world.lists.clearKeys (world.lists.keys.filter (·.beginsWith parts))
  set { world with lists := lists }
  return gone

/-- Drops everything in the cache, and tells how much there was. -/
def clear : Action Nat := do
  let world ← get
  let (gone, lists) := world.lists.clearAll
  set { world with lists := lists }
  return gone

def createAccount (client : Client) (identity : Identity) (parameters : Parameters) :
    Action Answer := do
  let created ← client.runLong .createAccount (some identity) parameters
  let _ ← invalidate client identity.subscription
  return created

def deleteAccount (client : Client) (identity : Identity) : Action Unit := do
  let _ ← client.runLong .deleteAccount (some identity) (.plain .null)
  let _ ← invalidate client identity.subscription

def firewallRules (client : Client) (identity : Option Identity) : Action (List Resource) := do
  let pager ← Action.ofExcept id (client.list .firewallRules identity none)
  collect pager

def storageAccounts (client : Client) (identity : Option Identity) : Action (List Resource) := do
  let pager ← Action.ofExcept id (client.list .storageAccounts identity none)
  collect pager

end LakeAdmin.Explorer
