import LakeAdmin.Proofs.Json.Equal
import LakeAdmin.Proofs.Json.Present
import LakeAdmin.Proofs.Model.Kept
import LakeAdmin.Proofs.Model.Validity

/-!
Bodies as they are sent. Each member of a value has a place in the body; what stands there is the
member, and where nothing stands it was not given. So a value can be told from its body, bodies
that denote the same are those of values that do, and there is no null in any of them.
-/

namespace LakeAdmin

open Schema

/-! ## Places -/

/-- Where a member of a value stands in a body, and how it is read there. -/
structure Place where
  name : String
  path : List String
  view : Json → Json

/-- The members that a body tells, null where nothing stands. -/
def Json.told (places : List Place) (body : Json) : Members :=
  places.map fun place => (place.name, place.view ((body.at? place.path).getD .null))

/-- Reads each item of an array. What is no array has no items. -/
def Json.toldItems (places : List Place) (value : Json) : Json :=
  .arr (value.items.map fun item => .obj (item.told places))

def StoreRef.places : List Place := [
  ⟨"name", ["name"], id⟩, ⟨"suffix", ["properties", "suffix"], id⟩]

def StorageRef.places : List Place := [
  ⟨"name", ["name"], id⟩, ⟨"access_key", ["properties", "accessKey"], id⟩,
  ⟨"suffix", ["properties", "suffix"], id⟩]

def BodyKind.places : BodyKind → List Place
  | storeRef => StoreRef.places
  | storageRef => StorageRef.places
  | createAccount => [
    ⟨"location", ["location"], id⟩,
    ⟨"default_data_lake_store_account", ["properties", "defaultDataLakeStoreAccount"], id⟩,
    ⟨"data_lake_store_accounts", ["properties", "dataLakeStoreAccounts"],
      Json.toldItems StoreRef.places⟩,
    ⟨"storage_accounts", ["properties", "storageAccounts"], Json.toldItems StorageRef.places⟩,
    ⟨"tags", ["tags"], id⟩,
    ⟨"max_degree_of_parallelism", ["properties", "maxDegreeOfParallelism"], id⟩,
    ⟨"max_job_count", ["properties", "maxJobCount"], id⟩,
    ⟨"query_store_retention", ["properties", "queryStoreRetention"], id⟩]
  | updateAccount => [
    ⟨"tags", ["tags"], id⟩,
    ⟨"max_degree_of_parallelism", ["properties", "maxDegreeOfParallelism"], id⟩,
    ⟨"max_job_count", ["properties", "maxJobCount"], id⟩,
    ⟨"query_store_retention", ["properties", "queryStoreRetention"], id⟩]
  | addStorage | updateStorage => [
    ⟨"access_key", ["properties", "accessKey"], id⟩, ⟨"suffix", ["properties", "suffix"], id⟩]
  | addStore => [⟨"suffix", ["properties", "suffix"], id⟩]
  | firewallRule | updateFirewallRule => [
    ⟨"start_ip_address", ["properties", "startIpAddress"], id⟩,
    ⟨"end_ip_address", ["properties", "endIpAddress"], id⟩]
  | nameLookup => [⟨"name", ["name"], id⟩, ⟨"type", ["type"], id⟩]

/-! ## Bodies with all their places -/

namespace BodyKind

/-- The properties in a body, null for what was not given. -/
def properties : (kind : BodyKind) → kind.Value → Members
  | storeRef => fun ref => [("suffix", Json.ofText? ref.suffix)]
  | storageRef => fun ref =>
    [("accessKey", .str ref.accessKey), ("suffix", Json.ofText? ref.suffix)]
  | createAccount => fun account => [
    ("defaultDataLakeStoreAccount", .str account.defaultStore),
    ("dataLakeStoreAccounts", .arr (account.stores.map fun ref => .obj ref.toBody)),
    ("storageAccounts", if account.storageAccounts.isEmpty then .null
      else .arr (account.storageAccounts.map fun ref => .obj ref.toBody)),
    ("maxDegreeOfParallelism", Json.ofInt? account.maxParallelism),
    ("maxJobCount", Json.ofInt? account.maxJobs),
    ("queryStoreRetention", Json.ofInt? account.queryRetention)]
  | updateAccount => fun account => [
    ("maxDegreeOfParallelism", Json.ofInt? account.maxParallelism),
    ("maxJobCount", Json.ofInt? account.maxJobs),
    ("queryStoreRetention", Json.ofInt? account.queryRetention)]
  | addStorage => fun storage =>
    [("accessKey", .str storage.accessKey), ("suffix", Json.ofText? storage.suffix)]
  | updateStorage => fun storage =>
    [("accessKey", Json.ofText? storage.accessKey), ("suffix", Json.ofText? storage.suffix)]
  | addStore => fun store => [("suffix", Json.ofText? store.suffix)]
  | firewallRule => fun rule =>
    [("startIpAddress", .str rule.first.toText), ("endIpAddress", .str rule.last.toText)]
  | updateFirewallRule => fun rule => [
    ("startIpAddress", Json.ofText? (rule.first.map Ipv4.toText)),
    ("endIpAddress", Json.ofText? (rule.last.map Ipv4.toText))]
  | nameLookup => fun _ => []

/-- The object of the properties. Changes to an account go without one that is empty. -/
def group (kind : BodyKind) (value : kind.Value) : Json :=
  let members := (kind.properties value).present
  if kind = updateAccount ∧ members.isEmpty then .null else .obj members

/-- All members of a body, null for what was not given. -/
def layout : (kind : BodyKind) → kind.Value → Members
  | storeRef => fun ref => [("name", .str ref.name), ("properties", group storeRef ref)]
  | storageRef => fun ref => [("name", .str ref.name), ("properties", group storageRef ref)]
  | createAccount => fun account => [
    ("location", .str account.location), ("tags", tagsJson account.tags),
    ("properties", group createAccount account)]
  | updateAccount => fun account =>
    [("tags", tagsJson account.tags), ("properties", group updateAccount account)]
  | nameLookup => NameLookup.toMembers
  | kind => fun value => [("properties", group kind value)]

end BodyKind

@[simp] theorem present_nil : Members.present ([] : Members) = [] := rfl

theorem present_cons (name : String) (value : Json) (rest : Members) :
    Members.present ((name, value) :: rest) = given name value ++ Members.present rest :=
  Members.present_append [(name, value)] rest

theorem given_some (name : String) {value : Json} (h : value ≠ .null) :
    given name value = [(name, value)] := by
  unfold given Members.present
  cases value with
  | null => exact absurd rfl h
  | _ => rfl

theorem filled_given (name : String) (members : Members) :
    filled name members = given name (if members.isEmpty then .null else .obj members) := by
  unfold filled
  split
  · rfl
  · rfl

/-- A body is its layout without what was not given. -/
theorem toBody_layout (kind : BodyKind) (value : kind.Value) :
    kind.toBody value = (kind.layout value).present := by
  cases kind with
  | createAccount =>
    simp [BodyKind.layout, BodyKind.group, BodyKind.properties, present_cons, given_some,
      BodyKind.toBody, CreateAccount.toBody]
  | updateAccount =>
    simp [BodyKind.layout, BodyKind.group, BodyKind.properties, present_cons, filled_given,
      BodyKind.toBody, UpdateAccount.toBody]
  | updateStorage =>
    simp [BodyKind.layout, BodyKind.group, BodyKind.properties, present_cons, given_some,
      BodyKind.toBody, UpdateStorage.toBody]
  | updateFirewallRule =>
    simp [BodyKind.layout, BodyKind.group, BodyKind.properties, present_cons, given_some,
      BodyKind.toBody, UpdateFirewallRule.toBody]
  | _ => rfl

theorem properties_names (kind : BodyKind) (value : kind.Value) :
    ((kind.properties value).map Prod.fst).Nodup := by
  cases kind <;> simp [BodyKind.properties]

theorem layout_names (kind : BodyKind) (value : kind.Value) :
    ((kind.layout value).map Prod.fst).Nodup := by
  cases kind <;> simp [BodyKind.layout, NameLookup.toMembers]

/-! ## Telling a value from its body -/

theorem toBody_at (kind : BodyKind) (value : kind.Value) (name : String) :
    ((Json.obj (kind.toBody value)).at? [name]).getD .null =
      ((kind.layout value).get? name).getD .null := by
  rw [toBody_layout, Members.at?_present (layout_names kind value), Json.at?_name]

theorem group_at (kind : BodyKind) (value : kind.Value) (name : String) :
    ((kind.group value).at? [name]).getD .null =
      ((kind.properties value).get? name).getD .null := by
  have inside : ((Json.obj (kind.properties value).present).at? [name]).getD .null =
      ((kind.properties value).get? name).getD .null := by
    rw [Members.at?_present (properties_names kind value), Json.at?_name]
  unfold BodyKind.group
  dsimp only
  split
  · rename_i empty
    rw [List.isEmpty_iff.mp empty.2] at inside
    exact inside
  · exact inside

theorem toBody_property (kind : BodyKind) (value : kind.Value) (name : String) :
    ((Json.obj (kind.toBody value)).at? ["properties", name]).getD .null =
      ((kind.properties value).get? name).getD .null := by
  rw [toBody_layout, Members.at?_present (layout_names kind value)]
  cases kind with
  | nameLookup => rfl
  | _ => exact group_at _ value name

theorem told_storeRef (ref : StoreRef) :
    (Json.obj ref.toBody).told StoreRef.places = ref.toMembers := by
  show (Json.obj (BodyKind.storeRef.toBody ref)).told _ = _
  simp only [Json.told, StoreRef.places, List.map_cons, toBody_at, toBody_property]
  rfl

theorem told_storageRef (ref : StorageRef) :
    (Json.obj ref.toBody).told StorageRef.places = ref.toMembers := by
  show (Json.obj (BodyKind.storageRef.toBody ref)).told _ = _
  simp only [Json.told, StorageRef.places, List.map_cons, toBody_at, toBody_property]
  rfl

theorem toldItems_map {α : Type} {places : List Place} {body members : α → Members}
    (h : ∀ a, (Json.obj (body a)).told places = members a) (l : List α) :
    Json.toldItems places (.arr (l.map fun a => .obj (body a))) =
      .arr (l.map fun a => .obj (members a)) := by
  unfold Json.toldItems Json.items
  simp [h]

/-- A body tells the members of its value, and which of them were not given. -/
theorem told_toBody (kind : BodyKind) (value : kind.Value) :
    (Json.obj (kind.toBody value)).told kind.places = kind.toMembers value := by
  cases kind with
  | storeRef => exact told_storeRef value
  | storageRef => exact told_storageRef value
  | createAccount =>
    have stores : Json.toldItems StoreRef.places
        (((BodyKind.createAccount.properties value).get? "dataLakeStoreAccounts").getD .null) =
          .arr (value.stores.map fun ref => .obj ref.toMembers) :=
      toldItems_map told_storeRef value.stores
    have storage : Json.toldItems StorageRef.places
        (((BodyKind.createAccount.properties value).get? "storageAccounts").getD .null) =
          .arr (value.storageAccounts.map fun ref => .obj ref.toMembers) := by
      show Json.toldItems StorageRef.places (if value.storageAccounts.isEmpty then .null
        else .arr (value.storageAccounts.map fun ref => .obj ref.toBody)) = _
      split
      · rename_i none
        rw [List.isEmpty_iff.mp none]
        rfl
      · exact toldItems_map told_storageRef value.storageAccounts
    simp only [Json.told, BodyKind.places, List.map_cons, toBody_at, toBody_property, stores,
      storage]
    rfl
  | _ =>
    simp only [Json.told, BodyKind.places, List.map_cons, toBody_at, toBody_property]
    rfl

/-! ## What bodies are made of -/

def BodyKind.tags : (kind : BodyKind) → kind.Value → Option (List (String × String))
  | createAccount => CreateAccount.tags
  | updateAccount => UpdateAccount.tags
  | _ => fun _ => none

section Closed

variable {P : Json → Prop} (closed : Json.Closed P)

include closed

theorem group_closed (kind : BodyKind) (value : kind.Value)
    (properties : ∀ member ∈ kind.properties value, member.2 = .null ∨ P member.2) :
    kind.group value = .null ∨ P (kind.group value) := by
  unfold BodyKind.group
  dsimp only
  split
  · exact .inl rfl
  · exact .inr (Members.present_closed closed (properties_names kind value) properties)

theorem body_of_properties (kind : BodyKind) (value : kind.Value)
    (properties : ∀ member ∈ kind.properties value, member.2 = .null ∨ P member.2)
    (tags : tagsJson (kind.tags value) = .null ∨ P (tagsJson (kind.tags value))) :
    P (.obj (kind.toBody value)) := by
  have grouped := group_closed closed kind value properties
  rw [toBody_layout]
  refine Members.present_closed closed (layout_names kind value) ?_
  cases kind with
  | createAccount => simpa [BodyKind.layout, closed.str] using ⟨tags, grouped⟩
  | updateAccount => simpa [BodyKind.layout] using ⟨tags, grouped⟩
  | nameLookup => simp [BodyKind.layout, NameLookup.toMembers, closed.str]
  | _ => simpa [BodyKind.layout, closed.str] using grouped

theorem storeRef_closed (ref : StoreRef) : P (.obj ref.toBody) :=
  body_of_properties closed .storeRef ref (by simp [BodyKind.properties, closed.text?]) (.inl rfl)

theorem storageRef_closed (ref : StorageRef) : P (.obj ref.toBody) :=
  body_of_properties closed .storageRef ref
    (by simp [BodyKind.properties, closed.text?, closed.str]) (.inl rfl)

theorem properties_closed (kind : BodyKind) (value : kind.Value) :
    ∀ member ∈ kind.properties value, member.2 = .null ∨ P member.2 := by
  cases kind with
  | createAccount =>
    have stores : P (.arr (value.stores.map fun ref => .obj ref.toBody)) :=
      closed.arr (List.forall_mem_map.mpr fun ref _ => storeRef_closed closed ref)
    have storage : P (.arr (value.storageAccounts.map fun ref => .obj ref.toBody)) :=
      closed.arr (List.forall_mem_map.mpr fun ref _ => storageRef_closed closed ref)
    have linked : (if value.storageAccounts.isEmpty then Json.null
        else .arr (value.storageAccounts.map fun ref => .obj ref.toBody)) = .null ∨
        P (if value.storageAccounts.isEmpty then Json.null
          else .arr (value.storageAccounts.map fun ref => .obj ref.toBody)) := by
      split
      · exact .inl rfl
      · exact .inr storage
    simp only [BodyKind.properties, List.forall_mem_cons]
    exact ⟨.inr (closed.str _), .inr stores, linked, closed.int? _, closed.int? _,
      closed.int? _, nofun⟩
  | _ => simp [BodyKind.properties, closed.str, closed.text?, closed.int?]

/-- A body has what texts and integers have, and what arrays and objects have of their parts, if
its tags have it. -/
theorem body_closed (kind : BodyKind) (value : kind.Value)
    (tags : tagsJson (kind.tags value) = .null ∨ P (tagsJson (kind.tags value))) :
    P (.obj (kind.toBody value)) :=
  body_of_properties closed kind value (properties_closed closed kind value) tags

end Closed

/-- There is no null in a body. -/
theorem body_nullFree (kind : BodyKind) (value : kind.Value) :
    (Json.obj (kind.toBody value)).NullFree := by
  refine body_closed Json.closed_nullFree kind value ?_
  cases kind.tags value with
  | none => exact .inl rfl
  | some l =>
    refine .inr (.obj fun member hm => ?_)
    obtain ⟨entry, -, rfl⟩ := List.mem_map.mp hm
    exact .str entry.2

theorem tags_distinct {kind : BodyKind} {document : Json} {value : kind.Value}
    (h : kind.check document = .valid value) (distinct : document.Distinct) :
    (tagsJson (kind.tags value)).Distinct := by
  have kept {members : Members} (distinct : (Json.obj members).Distinct)
      {tags : Option (List (String × String))}
      (read : Check.optional members "tags" tagsCheck = .valid tags) :
      (tagsJson tags).Distinct := by
    have same : tagsJson tags = (members.get? "tags").getD .null :=
      optional_kept (dictionary_keeps text_keeps) read
    rw [same]
    exact Json.getD_distinct (Json.get?_distinct distinct)
  cases kind with
  | createAccount =>
    obtain ⟨members, rfl, -, -, -, -, tags, -⟩ := createAccount_read h
    exact kept distinct tags
  | updateAccount =>
    obtain ⟨members, rfl, tags, -⟩ := updateAccount_read h
    exact kept distinct tags
  | _ => exact .null

theorem body_distinct {kind : BodyKind} {document : Json} {value : kind.Value}
    (h : kind.check document = .valid value) (distinct : document.Distinct) :
    (Json.obj (kind.toBody value)).Distinct :=
  body_closed Json.closed_distinct kind value (.inr (tags_distinct h distinct))

/-! ## Bodies that denote the same -/

/-- A way to read values gives the same for values that denote the same. -/
def Respects (view : Json → Json) : Prop :=
  ∀ x y : Json, x.Distinct → y.Distinct → x.same y = true → (view x).same (view y) = true

theorem respects_id : Respects id := fun _ _ _ _ h => h

theorem told_same {places : List Place} (names : (places.map Place.name).Nodup)
    (views : ∀ place ∈ places, Respects place.view) :
    Respects fun body => .obj (body.told places) := by
  intro x y distinct distinct' h
  refine Json.same_obj names fun place hp => ?_
  exact views place hp _ _ (Json.getD_distinct (Json.at?_distinct distinct))
    (Json.getD_distinct (Json.at?_distinct distinct'))
    (Json.getD_same (Json.at?_same distinct distinct' h place.path))

theorem toldItems_same {places : List Place} (names : (places.map Place.name).Nodup)
    (views : ∀ place ∈ places, Respects place.view) : Respects (Json.toldItems places) := by
  intro x y distinct distinct' h
  have items := Json.items_same h
  exact Json.sameItems_map items fun item hi other ho =>
    told_same names views item other (Json.items_distinct distinct item hi)
      (Json.items_distinct distinct' other ho)

theorem places_same (kind : BodyKind) :
    Respects fun body => .obj (body.told kind.places) := by
  have stores : Respects (Json.toldItems StoreRef.places) :=
    toldItems_same (by decide) (by simp [StoreRef.places, respects_id])
  have storage : Respects (Json.toldItems StorageRef.places) :=
    toldItems_same (by decide) (by simp [StorageRef.places, respects_id])
  have names : (kind.places.map Place.name).Nodup := by
    cases kind <;> decide
  refine told_same names ?_
  cases kind with
  | createAccount => simp [BodyKind.places, respects_id, stores, storage]
  | _ => simp [BodyKind.places, StoreRef.places, StorageRef.places, respects_id]

/-! ## Values and their bodies -/

/-- A body loses nothing of its value, and there is no null in it: the members of the value can be
told from it, those that were not given as null; values with one body are equal, and values
whose bodies denote the same denote the same, unless their documents repeat names. -/
theorem body_faithful (kind : BodyKind) {document other : Json} {a b : kind.Value}
    (accepted : kind.check document = .valid a) (accepted' : kind.check other = .valid b) :
    (Json.obj (kind.toBody a)).told kind.places = kind.toMembers a ∧
      (kind.toBody a = kind.toBody b → a = b) ∧
      (document.Distinct → other.Distinct →
        (Json.obj (kind.toBody a)).same (.obj (kind.toBody b)) = true →
        (Json.obj (kind.toMembers a)).same (.obj (kind.toMembers b)) = true) ∧
      (Json.obj (kind.toBody a)).NullFree := by
  refine ⟨told_toBody kind a, fun equal => ?_, fun distinct distinct' same => ?_,
    body_nullFree kind a⟩
  · have again := body_again kind (body_valid kind document a accepted)
    have again' := body_again kind (body_valid kind other b accepted')
    rw [← told_toBody, equal, told_toBody, again'] at again
    exact (Checked.valid.inj again).symm
  · have told := places_same kind _ _ (body_distinct accepted distinct)
      (body_distinct accepted' distinct') same
    simpa only [told_toBody] using told

/-- The tags of both bodies are the same tags in another order; an empty one is a tag still. -/
theorem body_faithful_tags :
    let document : Json := .obj [
      ("tags", .obj [("x", .str ""), ("y", .str "1")]), ("max_job_count", .bool true)]
    let other : Json := .obj [
      ("max_job_count", .str "1"), ("tags", .obj [("y", .str "1"), ("x", .str "")])]
    let a : UpdateAccount := ⟨some [("x", ""), ("y", "1")], none, some 1, none⟩
    let b : UpdateAccount := ⟨some [("y", "1"), ("x", "")], none, some 1, none⟩
    UpdateAccount.check document = .valid a ∧ UpdateAccount.check other = .valid b ∧
      document.Distinct ∧ other.Distinct ∧ (Json.obj a.toBody).same (.obj b.toBody) = true ∧
      (Json.obj a.toBody).told BodyKind.updateAccount.places = a.toMembers ∧
      (a.toBody = b.toBody → a = b) ∧
      (document.Distinct → other.Distinct → (Json.obj a.toBody).same (.obj b.toBody) = true →
        (Json.obj a.toMembers).same (.obj b.toMembers) = true) ∧
      (Json.obj a.toBody).NullFree := by
  intro document other a b
  have accepted : UpdateAccount.check document = .valid a := by decide +kernel
  have accepted' : UpdateAccount.check other = .valid b := by decide +kernel
  have distinct : document.Distinct := by
    refine .obj (by decide) ?_
    simp only [List.forall_mem_cons]
    exact ⟨.obj (by decide) (by simp [Json.Distinct.str]), .bool _, nofun⟩
  have distinct' : other.Distinct := by
    refine .obj (by decide) ?_
    simp only [List.forall_mem_cons]
    exact ⟨.str _, .obj (by decide) (by simp [Json.Distinct.str]), nofun⟩
  exact ⟨accepted, accepted', distinct, distinct', by decide +kernel,
    body_faithful .updateAccount accepted accepted'⟩

end LakeAdmin
