import LakeAdmin.Schema.Scalar
import LakeAdmin.Model.Resource

/-!
Bodies of requests. Each kind has a check, the members of a checked value, with null
for what was not given, and the body that is sent, from which null stays out.
-/

namespace LakeAdmin

open Schema

/-- An integer of at least one. -/
def countCheck : Check Int := Check.atLeast 1 Check.integer

/-- An integer of days that queries are kept. -/
def retentionCheck : Check Int := Check.atMost 180 (Check.atLeast 1 Check.integer)

def tagsCheck : Check (List (String × String)) := Check.dictionary Check.text

/-- A member that is left out if its value is null. -/
def given (name : String) (value : Json) : Members := Members.present [(name, value)]

/-- An object that is left out if it has no member. -/
def filled (name : String) (members : Members) : Members :=
  if members.isEmpty then [] else [(name, .obj members)]

/-! ## References to stores and storage accounts -/

/-- A store account to link. -/
structure StoreRef where
  name : String
  suffix : Option String
  deriving DecidableEq, Repr, Inhabited

namespace StoreRef

def check : Check StoreRef :=
  Check.object "DataLakeStoreRef" fun members =>
    StoreRef.mk <$> Check.required members "name" Check.filledText
      <*> Check.optional members "suffix" Check.text

def toMembers (ref : StoreRef) : Members :=
  [("name", .str ref.name), ("suffix", Json.ofText? ref.suffix)]

def toBody (ref : StoreRef) : Members :=
  [("name", .str ref.name), ("properties", .obj (given "suffix" (Json.ofText? ref.suffix)))]

end StoreRef

structure StorageRef where
  name : String
  accessKey : String
  suffix : Option String
  deriving DecidableEq, Repr, Inhabited

namespace StorageRef

def check : Check StorageRef :=
  Check.object "StorageAccountRef" fun members =>
    StorageRef.mk <$> Check.required members "name" Check.filledText
      <*> Check.required members "access_key" Check.filledText
      <*> Check.optional members "suffix" Check.text

def toMembers (ref : StorageRef) : Members := [
  ("name", .str ref.name), ("access_key", .str ref.accessKey),
  ("suffix", Json.ofText? ref.suffix)]

def toBody (ref : StorageRef) : Members := [
  ("name", .str ref.name),
  ("properties", .obj (("accessKey", .str ref.accessKey) ::
    given "suffix" (Json.ofText? ref.suffix)))]

end StorageRef

/-! ## Accounts -/

structure CreateAccount where
  location : String
  defaultStore : String
  stores : List StoreRef
  storageAccounts : List StorageRef
  tags : Option (List (String × String))
  maxParallelism : Option Int
  maxJobs : Option Int
  queryRetention : Option Int
  deriving DecidableEq, Repr, Inhabited

namespace CreateAccount

def listsDefault (account : CreateAccount) : Bool :=
  account.stores.any (·.name == account.defaultStore)

def check : Check CreateAccount :=
  Check.keeping .defaultStoreListed listsDefault <|
    Check.object "CreateAccountParameters" fun members =>
      CreateAccount.mk <$> Check.required members "location" Check.filledText
        <*> Check.required members "default_data_lake_store_account" Check.filledText
        <*> Check.required members "data_lake_store_accounts" (Check.filledList StoreRef.check)
        <*> Check.defaulted members "storage_accounts" [] (Check.list StorageRef.check)
        <*> Check.optional members "tags" tagsCheck
        <*> Check.optional members "max_degree_of_parallelism" countCheck
        <*> Check.optional members "max_job_count" countCheck
        <*> Check.optional members "query_store_retention" retentionCheck

def toMembers (account : CreateAccount) : Members := [
  ("location", .str account.location),
  ("default_data_lake_store_account", .str account.defaultStore),
  ("data_lake_store_accounts", .arr (account.stores.map fun ref => .obj ref.toMembers)),
  ("storage_accounts", .arr (account.storageAccounts.map fun ref => .obj ref.toMembers)),
  ("tags", tagsJson account.tags),
  ("max_degree_of_parallelism", Json.ofInt? account.maxParallelism),
  ("max_job_count", Json.ofInt? account.maxJobs),
  ("query_store_retention", Json.ofInt? account.queryRetention)]

def toBody (account : CreateAccount) : Members :=
  let storage : Json :=
    if account.storageAccounts.isEmpty then .null
    else .arr (account.storageAccounts.map fun ref => .obj ref.toBody)
  [("location", .str account.location)] ++ given "tags" (tagsJson account.tags) ++
    [("properties", .obj <|
      [("defaultDataLakeStoreAccount", .str account.defaultStore),
        ("dataLakeStoreAccounts", .arr (account.stores.map fun ref => .obj ref.toBody))] ++
      given "storageAccounts" storage ++
      given "maxDegreeOfParallelism" (Json.ofInt? account.maxParallelism) ++
      given "maxJobCount" (Json.ofInt? account.maxJobs) ++
      given "queryStoreRetention" (Json.ofInt? account.queryRetention))]

end CreateAccount

structure UpdateAccount where
  tags : Option (List (String × String))
  maxParallelism : Option Int
  maxJobs : Option Int
  queryRetention : Option Int
  deriving DecidableEq, Repr, Inhabited

namespace UpdateAccount

def check : Check UpdateAccount :=
  Check.object "UpdateAccountParameters" fun members =>
    UpdateAccount.mk <$> Check.optional members "tags" tagsCheck
      <*> Check.optional members "max_degree_of_parallelism" countCheck
      <*> Check.optional members "max_job_count" countCheck
      <*> Check.optional members "query_store_retention" retentionCheck

def toMembers (account : UpdateAccount) : Members := [
  ("tags", tagsJson account.tags),
  ("max_degree_of_parallelism", Json.ofInt? account.maxParallelism),
  ("max_job_count", Json.ofInt? account.maxJobs),
  ("query_store_retention", Json.ofInt? account.queryRetention)]

def toBody (account : UpdateAccount) : Members :=
  given "tags" (tagsJson account.tags) ++
    filled "properties"
      (given "maxDegreeOfParallelism" (Json.ofInt? account.maxParallelism) ++
        given "maxJobCount" (Json.ofInt? account.maxJobs) ++
        given "queryStoreRetention" (Json.ofInt? account.queryRetention))

end UpdateAccount

/-! ## Linked accounts -/

structure AddStorage where
  accessKey : String
  suffix : Option String
  deriving DecidableEq, Repr, Inhabited

namespace AddStorage

def check : Check AddStorage :=
  Check.object "AddStorageAccountParameters" fun members =>
    AddStorage.mk <$> Check.required members "access_key" Check.filledText
      <*> Check.optional members "suffix" Check.text

def toMembers (storage : AddStorage) : Members :=
  [("access_key", .str storage.accessKey), ("suffix", Json.ofText? storage.suffix)]

def toBody (storage : AddStorage) : Members :=
  [("properties", .obj (("accessKey", .str storage.accessKey) ::
    given "suffix" (Json.ofText? storage.suffix)))]

end AddStorage

structure UpdateStorage where
  accessKey : Option String
  suffix : Option String
  deriving DecidableEq, Repr, Inhabited

namespace UpdateStorage

def check : Check UpdateStorage :=
  Check.object "UpdateStorageAccountParameters" fun members =>
    UpdateStorage.mk <$> Check.optional members "access_key" Check.filledText
      <*> Check.optional members "suffix" Check.text

def toMembers (storage : UpdateStorage) : Members :=
  [("access_key", Json.ofText? storage.accessKey), ("suffix", Json.ofText? storage.suffix)]

def toBody (storage : UpdateStorage) : Members :=
  [("properties", .obj (given "accessKey" (Json.ofText? storage.accessKey) ++
    given "suffix" (Json.ofText? storage.suffix)))]

end UpdateStorage

structure AddStore where
  suffix : Option String
  deriving DecidableEq, Repr, Inhabited

namespace AddStore

def check : Check AddStore :=
  Check.object "AddDataLakeStoreParameters" fun members =>
    AddStore.mk <$> Check.optional members "suffix" Check.text

def toMembers (store : AddStore) : Members := [("suffix", Json.ofText? store.suffix)]

def toBody (store : AddStore) : Members :=
  [("properties", .obj (given "suffix" (Json.ofText? store.suffix)))]

end AddStore

/-! ## Firewall rules -/

structure FirewallRule where
  first : Ipv4
  last : Ipv4
  deriving DecidableEq, Repr

namespace FirewallRule

/-- Whether the range does not end before it starts. -/
def isOrdered (rule : FirewallRule) : Bool := rule.first.value ≤ rule.last.value

def check : Check FirewallRule :=
  Check.keeping .rangeOrdered isOrdered <|
    Check.object "FirewallRuleParameters" fun members =>
      FirewallRule.mk <$> Check.required members "start_ip_address" Check.ipv4
        <*> Check.required members "end_ip_address" Check.ipv4

def toMembers (rule : FirewallRule) : Members :=
  [("start_ip_address", .str rule.first.toText), ("end_ip_address", .str rule.last.toText)]

def toBody (rule : FirewallRule) : Members :=
  [("properties", .obj [
    ("startIpAddress", .str rule.first.toText), ("endIpAddress", .str rule.last.toText)])]

end FirewallRule

structure UpdateFirewallRule where
  first : Option Ipv4
  last : Option Ipv4
  deriving DecidableEq, Repr

namespace UpdateFirewallRule

def check : Check UpdateFirewallRule :=
  Check.object "UpdateFirewallRuleParameters" fun members =>
    UpdateFirewallRule.mk <$> Check.optional members "start_ip_address" Check.ipv4
      <*> Check.optional members "end_ip_address" Check.ipv4

def toMembers (rule : UpdateFirewallRule) : Members := [
  ("start_ip_address", Json.ofText? (rule.first.map Ipv4.toText)),
  ("end_ip_address", Json.ofText? (rule.last.map Ipv4.toText))]

def toBody (rule : UpdateFirewallRule) : Members :=
  [("properties", .obj (given "startIpAddress" (Json.ofText? (rule.first.map Ipv4.toText)) ++
    given "endIpAddress" (Json.ofText? (rule.last.map Ipv4.toText))))]

end UpdateFirewallRule

/-! ## Names -/

/-- A name that is to be looked up, and the type of resource it is for. -/
structure NameLookup where
  name : String
  type : String
  deriving DecidableEq, Repr, Inhabited

namespace NameLookup

def check : Check NameLookup :=
  Check.object "NameAvailabilityParameters" fun members =>
    NameLookup.mk <$> Check.required members "name" Check.filledText
      <*> Check.defaulted members "type" "Microsoft.DataLakeAnalytics/accounts" Check.text

/-- The members of a name to be looked up, which are the body as well. -/
def toMembers (lookup : NameLookup) : Members :=
  [("name", .str lookup.name), ("type", .str lookup.type)]

end NameLookup

end LakeAdmin
