import LakeAdmin.Problem
import LakeAdmin.Schema.Scalar

/-!
The scope of a call: the names on the way from a subscription down to a resource.
Which of them a call needs depends on its path.
-/

namespace LakeAdmin

open Schema

/-- The names that scope a call. The child of an account is a storage account, a
firewall rule or a store account; the grandchild is a container. -/
structure Identity where
  subscription : Option String
  resourceGroup : Option String
  account : Option String
  child : Option String
  grandchild : Option String
  deriving DecidableEq, Repr, Inhabited

inductive IdentityField where
  | subscription
  | resourceGroup
  | account
  | child
  | grandchild
  deriving DecidableEq, Repr

namespace IdentityField

/-- All fields, from the top down. -/
def all : List IdentityField := [subscription, resourceGroup, account, child, grandchild]

/-- The name of a field in paths, in documents and in messages. -/
def name : IdentityField → String
  | subscription => "subscription_id"
  | resourceGroup => "resource_group_name"
  | account => "account_name"
  | child => "child_name"
  | grandchild => "grandchild_name"

def ofName? (s : String) : Option IdentityField := all.find? (·.name == s)

end IdentityField

namespace Identity

def empty : Identity := ⟨none, none, none, none, none⟩

def get (identity : Identity) : IdentityField → Option String
  | .subscription => identity.subscription
  | .resourceGroup => identity.resourceGroup
  | .account => identity.account
  | .child => identity.child
  | .grandchild => identity.grandchild

/-- The value of a field given by its name; a name that is no field has none. -/
def lookUp (identity : Identity) (name : String) : Option String :=
  (IdentityField.ofName? name).bind identity.get

/-- The identity of a child of the same account. -/
def withChild (identity : Identity) (child grandchild : Option String) : Identity :=
  { identity with child := child, grandchild := grandchild }

def check : Check Identity :=
  Check.object "ResourceIdentity" fun members =>
    Identity.mk <$> Check.optional members "subscription_id" Check.text
      <*> Check.optional members "resource_group_name" Check.text
      <*> Check.optional members "account_name" Check.text
      <*> Check.optional members "child_name" Check.text
      <*> Check.optional members "grandchild_name" Check.text

def toMembers (identity : Identity) : Members :=
  IdentityField.all.map fun field => (field.name, Json.ofText? (identity.get field))

end Identity

def Identity.problems (required : List String) : Option Identity → List Problem
  | none => [.identityMissing]
  | some identity => required.flatMap fun name => Problem.ofName name (identity.lookUp name)

end LakeAdmin
