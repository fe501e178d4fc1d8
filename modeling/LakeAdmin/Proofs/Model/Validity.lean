import LakeAdmin.Model.Kind
import LakeAdmin.Proofs.Schema.Written

/-!
Values of bodies that have passed their check. The rules that they keep are all that the check
asks for: a value keeps them if and only if it passes, as it is written, with its texts and
numbers in their plain forms. So checking is done once, whatever forms a value came in.
-/

namespace LakeAdmin

open Schema

/-! ## Rules -/

def IsCount (n : Option Int) : Prop := ∀ k ∈ n, 1 ≤ k

def IsRetention (n : Option Int) : Prop := ∀ k ∈ n, 1 ≤ k ∧ k ≤ 180

def StoreRef.IsValid (ref : StoreRef) : Prop := ref.name ≠ ""

structure StorageRef.IsValid (ref : StorageRef) : Prop where
  name : ref.name ≠ ""
  accessKey : ref.accessKey ≠ ""

structure CreateAccount.IsValid (account : CreateAccount) : Prop where
  location : account.location ≠ ""
  defaultStore : account.defaultStore ≠ ""
  stores : account.stores ≠ []
  eachStore : ∀ ref ∈ account.stores, ref.IsValid
  eachStorage : ∀ ref ∈ account.storageAccounts, ref.IsValid
  listed : account.listsDefault = true
  maxParallelism : IsCount account.maxParallelism
  maxJobs : IsCount account.maxJobs
  queryRetention : IsRetention account.queryRetention

structure UpdateAccount.IsValid (account : UpdateAccount) : Prop where
  maxParallelism : IsCount account.maxParallelism
  maxJobs : IsCount account.maxJobs
  queryRetention : IsRetention account.queryRetention

def BodyKind.IsValid : (kind : BodyKind) → kind.Value → Prop
  | storeRef => StoreRef.IsValid
  | storageRef => StorageRef.IsValid
  | createAccount => CreateAccount.IsValid
  | updateAccount => UpdateAccount.IsValid
  | addStorage => fun storage => storage.accessKey ≠ ""
  | updateStorage => fun storage => ∀ key ∈ storage.accessKey, key ≠ ""
  | addStore => fun _ => True
  | firewallRule => fun rule => rule.isOrdered = true
  | updateFirewallRule => fun _ => True
  | nameLookup => fun lookup => lookup.name ≠ ""

/-! ## Members -/

variable {members : Members} {name : String}

theorem optionalText_again {given : Option String}
    (found : members.get? name = some (Json.ofText? given)) :
    Check.optional members name Check.text = .valid given := by
  refine optional_again (fun s _ => rereads_text s) (found.trans ?_)
  cases given <;> rfl

theorem ensures_count : Ensures countCheck (1 ≤ ·) := ensures_atLeast 1

theorem ensures_retention : Ensures retentionCheck fun n => 1 ≤ n ∧ n ≤ 180 :=
  ensures_atMost 180 (ensures_atLeast 1)

theorem optionalCount_again {given : Option Int} (h : IsCount given)
    (found : members.get? name = some (Json.ofInt? given)) :
    Check.optional members name countCheck = .valid given := by
  refine optional_again (fun n hn => rereads_atLeast (rereads_integer n) (h n hn))
    (found.trans ?_)
  cases given <;> rfl

theorem optionalRetention_again {given : Option Int} (h : IsRetention given)
    (found : members.get? name = some (Json.ofInt? given)) :
    Check.optional members name retentionCheck = .valid given := by
  have again (n : Int) (hn : n ∈ given) : Rereads retentionCheck .int n :=
    rereads_atMost (rereads_atLeast (rereads_integer n) (h n hn).1) (h n hn).2
  refine optional_again again (found.trans ?_)
  cases given <;> rfl

theorem optionalTags_again {given : Option (List (String × String))}
    (found : members.get? name = some (tagsJson given)) :
    Check.optional members name tagsCheck = .valid given :=
  optional_again (fun _ _ => rereads_dictionary fun entry _ => rereads_text entry.2) found

theorem optionalAddress_again {given : Option Ipv4}
    (found : members.get? name = some (Json.ofText? (given.map Ipv4.toText))) :
    Check.optional members name Check.ipv4 = .valid given := by
  refine optional_again (fun address _ => rereads_ipv4 address) (found.trans ?_)
  cases given <;> rfl

/-! ## Links -/

theorem storeRef_valid : Ensures StoreRef.check StoreRef.IsValid := by
  intro value ref h
  obtain ⟨members, -, read⟩ := object_valid h
  obtain ⟨withName, suffix, front, -, rfl⟩ := seq_valid read
  obtain ⟨name, named, rfl⟩ := map_valid front
  exact ensures_required ensures_filledText named

theorem storeRef_again {ref : StoreRef} (valid : ref.IsValid) :
    Rereads StoreRef.check (fun ref => .obj ref.toMembers) ref := by
  refine ⟨nofun, seq_passed (map_passed ?name) ?suffix rfl⟩
  case name => exact required_again (rereads_filledText valid) rfl
  case suffix => exact optionalText_again rfl

theorem storageRef_valid : Ensures StorageRef.check StorageRef.IsValid := by
  intro value ref h
  obtain ⟨members, -, read⟩ := object_valid h
  obtain ⟨withKey, suffix, front, -, rfl⟩ := seq_valid read
  obtain ⟨withName, accessKey, first, keyed, rfl⟩ := seq_valid front
  obtain ⟨name, named, rfl⟩ := map_valid first
  exact ⟨ensures_required ensures_filledText named, ensures_required ensures_filledText keyed⟩

theorem storageRef_again {ref : StorageRef} (valid : ref.IsValid) :
    Rereads StorageRef.check (fun ref => .obj ref.toMembers) ref := by
  refine ⟨nofun, seq_passed (seq_passed (map_passed ?name) ?accessKey rfl) ?suffix rfl⟩
  case name => exact required_again (rereads_filledText valid.name) rfl
  case accessKey => exact required_again (rereads_filledText valid.accessKey) rfl
  case suffix => exact optionalText_again rfl

/-! ## Accounts -/

/-- What is read of a document to make up an account. -/
theorem createAccount_read {document : Json} {account : CreateAccount}
    (h : CreateAccount.check document = .valid account) :
    ∃ members : Members, document = .obj members ∧
      Check.required members "location" Check.filledText = .valid account.location ∧
      Check.required members "default_data_lake_store_account" Check.filledText =
        .valid account.defaultStore ∧
      Check.required members "data_lake_store_accounts" (Check.filledList StoreRef.check) =
        .valid account.stores ∧
      Check.defaulted members "storage_accounts" [] (Check.list StorageRef.check) =
        .valid account.storageAccounts ∧
      Check.optional members "tags" tagsCheck = .valid account.tags ∧
      Check.optional members "max_degree_of_parallelism" countCheck =
        .valid account.maxParallelism ∧
      Check.optional members "max_job_count" countCheck = .valid account.maxJobs ∧
      Check.optional members "query_store_retention" retentionCheck =
        .valid account.queryRetention ∧
      account.listsDefault = true := by
  obtain ⟨fields, listed⟩ := keeping_valid h
  obtain ⟨members, rfl, read⟩ := object_valid fields
  obtain ⟨withJobs, retention, front₇, read₈, rfl⟩ := seq_valid read
  obtain ⟨withParallelism, jobs, front₆, read₇, rfl⟩ := seq_valid front₇
  obtain ⟨withTags, parallelism, front₅, read₆, rfl⟩ := seq_valid front₆
  obtain ⟨withStorage, tags, front₄, read₅, rfl⟩ := seq_valid front₅
  obtain ⟨withStores, storage, front₃, read₄, rfl⟩ := seq_valid front₄
  obtain ⟨withDefault, stores, front₂, read₃, rfl⟩ := seq_valid front₃
  obtain ⟨withLocation, default, front₁, read₂, rfl⟩ := seq_valid front₂
  obtain ⟨location, read₁, rfl⟩ := map_valid front₁
  exact ⟨members, rfl, read₁, read₂, read₃, read₄, read₅, read₆, read₇, read₈, listed⟩

theorem createAccount_valid : Ensures CreateAccount.check CreateAccount.IsValid := by
  intro document account h
  obtain ⟨members, -, location, default, stores, storage, -, parallelism, jobs, retention,
    listed⟩ := createAccount_read h
  obtain ⟨filled, each⟩ := ensures_required (ensures_filledList storeRef_valid) stores
  have storages : ∀ ref ∈ account.storageAccounts, ref.IsValid := by
    rcases defaulted_valid storage with ⟨-, none⟩ | ⟨value, -, passed⟩
    · rw [none]
      exact nofun
    · exact ensures_list storageRef_valid value _ passed
  exact {
    location := ensures_required ensures_filledText location
    defaultStore := ensures_required ensures_filledText default
    stores := filled
    eachStore := each
    eachStorage := storages
    listed := listed
    maxParallelism := ensures_optional ensures_count parallelism
    maxJobs := ensures_optional ensures_count jobs
    queryRetention := ensures_optional ensures_retention retention }

theorem createAccount_again {account : CreateAccount} (valid : account.IsValid) :
    CreateAccount.check (.obj account.toMembers) = .valid account := by
  refine keeping_passed ?_ valid.listed
  refine seq_passed (seq_passed (seq_passed (seq_passed (seq_passed (seq_passed (seq_passed
    (map_passed ?location) ?defaultStore rfl) ?stores rfl) ?storage rfl) ?tags rfl)
    ?parallelism rfl) ?jobs rfl) ?retention rfl
  case location => exact required_again (rereads_filledText valid.location) rfl
  case defaultStore => exact required_again (rereads_filledText valid.defaultStore) rfl
  case stores =>
    have each (ref : StoreRef) (hr : ref ∈ account.stores) :=
      storeRef_again (valid.eachStore ref hr)
    exact required_again (rereads_filledList valid.stores each) rfl
  case storage =>
    have each (ref : StorageRef) (hr : ref ∈ account.storageAccounts) :=
      storageRef_again (valid.eachStorage ref hr)
    exact defaulted_again [] (rereads_list each) rfl
  case tags => exact optionalTags_again rfl
  case parallelism => exact optionalCount_again valid.maxParallelism rfl
  case jobs => exact optionalCount_again valid.maxJobs rfl
  case retention => exact optionalRetention_again valid.queryRetention rfl

/-- What is read of a document to make up changes to an account. -/
theorem updateAccount_read {document : Json} {account : UpdateAccount}
    (h : UpdateAccount.check document = .valid account) :
    ∃ members : Members, document = .obj members ∧
      Check.optional members "tags" tagsCheck = .valid account.tags ∧
      Check.optional members "max_degree_of_parallelism" countCheck =
        .valid account.maxParallelism ∧
      Check.optional members "max_job_count" countCheck = .valid account.maxJobs ∧
      Check.optional members "query_store_retention" retentionCheck =
        .valid account.queryRetention := by
  obtain ⟨members, rfl, read⟩ := object_valid h
  obtain ⟨withJobs, retention, front₃, read₄, rfl⟩ := seq_valid read
  obtain ⟨withParallelism, jobs, front₂, read₃, rfl⟩ := seq_valid front₃
  obtain ⟨withTags, parallelism, front₁, read₂, rfl⟩ := seq_valid front₂
  obtain ⟨tags, read₁, rfl⟩ := map_valid front₁
  exact ⟨members, rfl, read₁, read₂, read₃, read₄⟩

theorem updateAccount_valid : Ensures UpdateAccount.check UpdateAccount.IsValid := by
  intro document account h
  obtain ⟨members, -, -, parallelism, jobs, retention⟩ := updateAccount_read h
  exact ⟨ensures_optional ensures_count parallelism, ensures_optional ensures_count jobs,
    ensures_optional ensures_retention retention⟩

theorem updateAccount_again {account : UpdateAccount} (valid : account.IsValid) :
    UpdateAccount.check (.obj account.toMembers) = .valid account := by
  refine seq_passed (seq_passed (seq_passed (map_passed ?tags) ?parallelism rfl) ?jobs rfl)
    ?retention rfl
  case tags => exact optionalTags_again rfl
  case parallelism => exact optionalCount_again valid.maxParallelism rfl
  case jobs => exact optionalCount_again valid.maxJobs rfl
  case retention => exact optionalRetention_again valid.queryRetention rfl

/-! ## Firewall rules -/

theorem firewallRule_again {rule : FirewallRule} (ordered : rule.isOrdered = true) :
    FirewallRule.check (.obj rule.toMembers) = .valid rule := by
  refine keeping_passed ?_ ordered
  refine seq_passed (map_passed ?first) ?last rfl
  case first => exact required_again (rereads_ipv4 rule.first) rfl
  case last => exact required_again (rereads_ipv4 rule.last) rfl

/-! ## All kinds -/

/-- What passes the check of a kind keeps the rules of the kind. -/
theorem body_valid (kind : BodyKind) : Ensures kind.check kind.IsValid := by
  cases kind with
  | storeRef => exact storeRef_valid
  | storageRef => exact storageRef_valid
  | createAccount => exact createAccount_valid
  | updateAccount => exact updateAccount_valid
  | addStorage =>
    intro value storage h
    obtain ⟨members, -, read⟩ := object_valid h
    obtain ⟨withKey, suffix, front, -, rfl⟩ := seq_valid read
    obtain ⟨accessKey, keyed, rfl⟩ := map_valid front
    exact ensures_required ensures_filledText keyed
  | updateStorage =>
    intro value storage h
    obtain ⟨members, -, read⟩ := object_valid h
    obtain ⟨withKey, suffix, front, -, rfl⟩ := seq_valid read
    obtain ⟨accessKey, keyed, rfl⟩ := map_valid front
    exact ensures_optional ensures_filledText keyed
  | addStore => exact fun _ _ _ => trivial
  | firewallRule =>
    have ordered : Ensures FirewallRule.check fun rule => True ∧ rule.isOrdered = true :=
      ensures_keeping .rangeOrdered fun _ _ _ => trivial
    exact fun value rule h => (ordered value rule h).2
  | updateFirewallRule => exact fun _ _ _ => trivial
  | nameLookup =>
    intro value lookup h
    obtain ⟨members, -, read⟩ := object_valid h
    obtain ⟨withName, type, front, -, rfl⟩ := seq_valid read
    obtain ⟨name, named, rfl⟩ := map_valid front
    exact ensures_required ensures_filledText named

/-- A value that keeps the rules of its kind passes the check as it is written. -/
theorem body_again (kind : BodyKind) {value : kind.Value} (valid : kind.IsValid value) :
    kind.check (.obj (kind.toMembers value)) = .valid value := by
  cases kind with
  | storeRef => exact (storeRef_again valid).passes
  | storageRef => exact (storageRef_again valid).passes
  | createAccount => exact createAccount_again valid
  | updateAccount => exact updateAccount_again valid
  | addStorage =>
    refine seq_passed (map_passed ?accessKey) ?suffix rfl
    case accessKey => exact required_again (rereads_filledText valid) rfl
    case suffix => exact optionalText_again rfl
  | updateStorage =>
    refine seq_passed (map_passed ?accessKey) ?suffix rfl
    case accessKey =>
      refine optional_again (fun key hk => rereads_filledText (valid key hk)) ?_
      obtain ⟨accessKey, suffix⟩ := value
      cases accessKey <;> rfl
    case suffix => exact optionalText_again rfl
  | addStore =>
    refine map_passed ?suffix
    case suffix => exact optionalText_again rfl
  | firewallRule => exact firewallRule_again valid
  | updateFirewallRule =>
    refine seq_passed (map_passed ?first) ?last rfl
    case first => exact optionalAddress_again rfl
    case last => exact optionalAddress_again rfl
  | nameLookup =>
    refine seq_passed (map_passed ?name) ?type rfl
    case name => exact required_again (rereads_filledText valid) rfl
    case type => exact defaulted_again _ (rereads_text value.type) rfl

end LakeAdmin
