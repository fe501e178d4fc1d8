import LakeAdmin.Proofs.Model.Body

/-!
What the service asks of the body for a new account, said of the document itself. A value that
keeps the rules of its kind has such a body.
-/

namespace LakeAdmin

/-! ## The rules of the service -/

namespace Json

/-- A text that is not empty stands at a place. -/
def HasText (value : Json) (path : List String) : Prop :=
  ∃ s, s ≠ "" ∧ value.at? path = some (.str s)

/-- Nothing stands at a place, or an integer that is fit. -/
def HasNumber (value : Json) (path : List String) (fit : Int → Prop) : Prop :=
  ∀ found ∈ value.at? path, ∃ n, found = .int n ∧ fit n

/-- The body for a new account, as the service wants it. -/
structure IsAccount (body : Json) : Prop where
  location : body.HasText ["location"]
  tags : ∀ found ∈ body.at? ["tags"], found.IsObjectOf IsText
  stores : ∃ name items, name ≠ "" ∧
    body.at? ["properties", "defaultDataLakeStoreAccount"] = some (.str name) ∧
    body.at? ["properties", "dataLakeStoreAccounts"] = some (.arr items) ∧
    (∀ item ∈ items, item.HasText ["name"]) ∧ ∃ item ∈ items, item.at? ["name"] = some (.str name)
  storageAccounts : ∀ found ∈ body.at? ["properties", "storageAccounts"],
    ∃ items, found = .arr items ∧ items ≠ [] ∧
      ∀ item ∈ items, item.HasText ["name"] ∧ item.HasText ["properties", "accessKey"]
  maxParallelism : body.HasNumber ["properties", "maxDegreeOfParallelism"] (1 ≤ ·)
  maxJobs : body.HasNumber ["properties", "maxJobCount"] (1 ≤ ·)
  queryRetention :
    body.HasNumber ["properties", "queryStoreRetention"] fun n => 1 ≤ n ∧ n ≤ 180

end Json

/-! ## Values that keep their rules -/

variable {account : CreateAccount} {name : String} {value : Json}

/-- What stands at the top of the body of an account is what its layout has there. -/
theorem account_at :
    (Json.obj account.toBody).at? [name] = some value ↔
      (BodyKind.createAccount.layout account).get? name = some value ∧ value ≠ .null := by
  have laid : account.toBody = (BodyKind.createAccount.layout account).present :=
    toBody_layout .createAccount account
  rw [laid, Json.at?_name, Members.get?_present (layout_names .createAccount account)]

/-- The same of its properties, which are always there. -/
theorem account_property :
    (Json.obj account.toBody).at? ["properties", name] = some value ↔
      (BodyKind.createAccount.properties account).get? name = some value ∧ value ≠ .null := by
  have grouped : (Json.obj account.toBody).at? ["properties"] =
      some (.obj (BodyKind.createAccount.properties account).present) :=
    account_at.mpr ⟨rfl, nofun⟩
  rw [Json.at?_cons, grouped, Option.bind_some, Json.at?_name,
    Members.get?_present (properties_names .createAccount account)]

theorem account_number {number : Option Int} {fit : Int → Prop}
    (there : (BodyKind.createAccount.properties account).get? name =
      some (Json.ofInt? number)) (rule : ∀ n ∈ number, fit n) :
    (Json.obj account.toBody).HasNumber ["properties", name] fit := by
  intro found h
  obtain ⟨same, filled⟩ := account_property.mp h
  rw [there] at same
  cases same
  cases number with
  | none => exact absurd rfl filled
  | some n => exact ⟨n, rfl, rule n rfl⟩

theorem storeRef_named {ref : StoreRef} (valid : ref.IsValid) :
    (Json.obj ref.toBody).HasText ["name"] :=
  ⟨ref.name, valid, rfl⟩

theorem storageRef_named {ref : StorageRef} (valid : ref.IsValid) :
    (Json.obj ref.toBody).HasText ["name"] ∧
      (Json.obj ref.toBody).HasText ["properties", "accessKey"] :=
  ⟨⟨ref.name, valid.name, rfl⟩, ⟨ref.accessKey, valid.accessKey, rfl⟩⟩

/-- An account that keeps its rules has a body as the service wants it. -/
theorem account_isAccount (valid : account.IsValid) : (Json.obj account.toBody).IsAccount where
  location := ⟨account.location, valid.location, account_at.mpr ⟨rfl, nofun⟩⟩
  tags := by
    intro found h
    obtain ⟨same, filled⟩ := account_at.mp h
    have tagged : tagsJson account.tags = found := Option.some.inj same
    cases tags : account.tags with
    | none =>
      rw [tags] at tagged
      exact absurd tagged.symm filled
    | some l =>
      rw [tags] at tagged
      refine ⟨_, tagged.symm, fun member hm => ?_⟩
      obtain ⟨entry, -, rfl⟩ := List.mem_map.mp hm
      exact ⟨entry.2, rfl⟩
  stores := by
    obtain ⟨ref, listed, same⟩ := List.any_eq_true.mp valid.listed
    refine ⟨account.defaultStore, account.stores.map fun ref => .obj ref.toBody,
      valid.defaultStore, account_property.mpr ⟨rfl, nofun⟩, account_property.mpr ⟨rfl, nofun⟩,
      ?_, ?_⟩
    · exact List.forall_mem_map.mpr fun ref hr => storeRef_named (valid.eachStore ref hr)
    · refine ⟨.obj ref.toBody, List.mem_map.mpr ⟨ref, listed, rfl⟩, ?_⟩
      rw [← beq_iff_eq.mp same]
      rfl
  storageAccounts := by
    intro found h
    obtain ⟨same, filled⟩ := account_property.mp h
    have linked : (if account.storageAccounts.isEmpty then Json.null
        else .arr (account.storageAccounts.map fun ref => .obj ref.toBody)) = found :=
      Option.some.inj same
    split at linked
    · exact absurd linked.symm filled
    · rename_i some
      refine ⟨_, linked.symm, by simpa using some, ?_⟩
      exact List.forall_mem_map.mpr fun ref hr => storageRef_named (valid.eachStorage ref hr)
  maxParallelism := account_number rfl valid.maxParallelism
  maxJobs := account_number rfl valid.maxJobs
  queryRetention := account_number rfl valid.queryRetention

end LakeAdmin
