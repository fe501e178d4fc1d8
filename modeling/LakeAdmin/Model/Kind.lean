import LakeAdmin.Model.Query
import LakeAdmin.Model.Request

/-!
The kinds of documents with a schema, and values of them. Where a body of one kind is
wanted, a value of that kind is taken as it is, and any other value by its members.
-/

namespace LakeAdmin

open Schema

inductive BodyKind where
  | storeRef
  | storageRef
  | createAccount
  | updateAccount
  | addStorage
  | updateStorage
  | addStore
  | firewallRule
  | updateFirewallRule
  | nameLookup
  deriving DecidableEq, Repr

namespace BodyKind

abbrev Value : BodyKind → Type
  | storeRef => StoreRef
  | storageRef => StorageRef
  | createAccount => CreateAccount
  | updateAccount => UpdateAccount
  | addStorage => AddStorage
  | updateStorage => UpdateStorage
  | addStore => AddStore
  | firewallRule => FirewallRule
  | updateFirewallRule => UpdateFirewallRule
  | nameLookup => NameLookup

def check : (kind : BodyKind) → Check kind.Value
  | storeRef => StoreRef.check
  | storageRef => StorageRef.check
  | createAccount => CreateAccount.check
  | updateAccount => UpdateAccount.check
  | addStorage => AddStorage.check
  | updateStorage => UpdateStorage.check
  | addStore => AddStore.check
  | firewallRule => FirewallRule.check
  | updateFirewallRule => UpdateFirewallRule.check
  | nameLookup => NameLookup.check

/-- The members of a value, with null for what was not given. -/
def toMembers : (kind : BodyKind) → kind.Value → Members
  | storeRef => StoreRef.toMembers
  | storageRef => StorageRef.toMembers
  | createAccount => CreateAccount.toMembers
  | updateAccount => UpdateAccount.toMembers
  | addStorage => AddStorage.toMembers
  | updateStorage => UpdateStorage.toMembers
  | addStore => AddStore.toMembers
  | firewallRule => FirewallRule.toMembers
  | updateFirewallRule => UpdateFirewallRule.toMembers
  | nameLookup => NameLookup.toMembers

/-- The body that is sent for a value. -/
def toBody : (kind : BodyKind) → kind.Value → Members
  | storeRef => StoreRef.toBody
  | storageRef => StorageRef.toBody
  | createAccount => CreateAccount.toBody
  | updateAccount => UpdateAccount.toBody
  | addStorage => AddStorage.toBody
  | updateStorage => UpdateStorage.toBody
  | addStore => AddStore.toBody
  | firewallRule => FirewallRule.toBody
  | updateFirewallRule => UpdateFirewallRule.toBody
  | nameLookup => NameLookup.toMembers

end BodyKind

/-- A checked value of some kind. -/
inductive Model where
  | body (kind : BodyKind) (value : kind.Value)
  | identity (identity : Identity)
  | query (query : QueryOptions)
  | resource (resource : Resource String)
  | status (status : OperationStatus String)

inductive ModelKind where
  | body (kind : BodyKind)
  | identity
  | query
  | resource
  | status
  deriving DecidableEq, Repr

namespace ModelKind

/-- The name of a kind in messages. -/
def name : ModelKind → String
  | body .storeRef => "DataLakeStoreRef"
  | body .storageRef => "StorageAccountRef"
  | body .createAccount => "CreateAccountParameters"
  | body .updateAccount => "UpdateAccountParameters"
  | body .addStorage => "AddStorageAccountParameters"
  | body .updateStorage => "UpdateStorageAccountParameters"
  | body .addStore => "AddDataLakeStoreParameters"
  | body .firewallRule => "FirewallRuleParameters"
  | body .updateFirewallRule => "UpdateFirewallRuleParameters"
  | body .nameLookup => "NameAvailabilityParameters"
  | identity => "ResourceIdentity"
  | query => "QueryOptions"
  | resource => "Resource"
  | status => "OperationStatus"

def all : List ModelKind := [
  body .storeRef, body .storageRef, body .createAccount, body .updateAccount,
  body .addStorage, body .updateStorage, body .addStore, body .firewallRule,
  body .updateFirewallRule, body .nameLookup, identity, query, resource, status]

def ofName? (s : String) : Option ModelKind := all.find? (·.name == s)

def check : ModelKind → Check Model
  | body kind => fun value => (kind.check value).map (Model.body kind)
  | identity => fun value => (Identity.check value).map Model.identity
  | query => fun value => (QueryOptions.check value).map Model.query
  | resource => fun value => (Resource.check value).map Model.resource
  | status => fun value => (OperationStatus.check value).map Model.status

end ModelKind

namespace Model

def kind : Model → ModelKind
  | body kind _ => .body kind
  | identity _ => .identity
  | query _ => .query
  | resource _ => .resource
  | status _ => .status

/-- The members of a value, with null for what was not given. -/
def toMembers : Model → Members
  | body kind value => kind.toMembers value
  | identity value => value.toMembers
  | query value => value.toMembers
  | resource value => value.toMembers
  | status value => value.toMembers

end Model

/-- What a caller passes as parameters: a plain document or a checked value. -/
inductive Parameters where
  | plain (value : Json)
  | checked (value : Model)

namespace BodyKind

/-- The value of a kind that parameters make up. -/
def ofParameters (kind : BodyKind) : Parameters → Checked kind.Value
  | .plain value => kind.check value
  | .checked (.body other value) =>
    if h : other = kind then .valid (h ▸ value)
    else kind.check (.obj (other.toMembers value))
  | .checked value => kind.check (.obj value.toMembers)

end BodyKind

end LakeAdmin
