import LakeAdmin.Model.Resource
import LakeAdmin.Proofs.Json.Distinct
import LakeAdmin.Proofs.Schema.Checked

/-!
What a resource keeps of the object it is read from: everything but null members. Known fields
are checked, and what passes is the value that was there; all other members stay as they came.
A page keeps the resources in the order of its array.
-/

namespace LakeAdmin

open Schema

/-! ## Checks -/

namespace Schema

variable {τ : Type}

/-- A check that changes nothing: what passes is written as the value it was read from. -/
def Keeps {α : Type} (check : Check α τ) (write : α → Json τ) : Prop :=
  ∀ value a, check value = .valid a → write a = value

/-- An optional member is written as it was, and null if it was not there. -/
theorem optional_kept [DecidableEq τ] [TextLike τ] {α : Type} {members : Members τ} {name : τ} {found : Option α}
    {check : Check α τ} {write : α → Json τ} (keeps : Keeps check write)
    (h : Check.optional members name check = .valid found) :
    found.elim .null write = (members.get? name).getD .null := by
  rcases defaulted_valid h with ⟨absent, rfl⟩ | ⟨value, there, read⟩
  · rw [absent]
    rfl
  · rw [there]
    unfold Check.nullable at read
    split at read
    · cases read
      rfl
    · obtain ⟨a, passed, rfl⟩ := map_valid read
      exact keeps value a passed

theorem text_keeps : Keeps Check.text (@Json.str τ) := by
  intro value text h
  cases value with
  | str s =>
    cases h
    rfl
  | _ => cases h

theorem any_keeps : Keeps (@Check.any τ) id := by
  intro value a h
  cases h
  rfl

/-- A dictionary is written as it was if its values are. -/
theorem dictionary_keeps [TextLike τ] {α : Type} {check : Check α τ} {write : α → Json τ}
    (keeps : Keeps check write) :
    Keeps (Check.dictionary check) fun entries =>
      .obj (entries.map fun entry => (entry.1, write entry.2)) := by
  intro value entries h
  cases value with
  | obj members =>
    have checked : Check.entries check members = .valid entries := h
    refine congrArg Json.obj ?_
    clear h
    induction members generalizing entries with
    | nil =>
      cases checked
      rfl
    | cons member rest ih =>
      unfold Check.entries at checked
      obtain ⟨g, others, front, read, rfl⟩ := seq_valid checked
      obtain ⟨first, head, rfl⟩ := map_valid front
      obtain ⟨a, named, rfl⟩ := map_valid head
      rw [List.map_cons, ih others read, keeps _ a (under_valid named)]
  | _ => cases h

end Schema

/-! ## Resources -/

section Extras

variable {τ α : Type} [DecidableEq τ] [TextLike τ] {known : List τ} {members : Members τ}
  {fields : Checked (Members τ → α)}

theorem withExtras_valid {a : α} (h : withExtras known members fields = .valid a) :
    ∃ read, fields = .valid read ∧ a = read (extrasOf known members) := by
  unfold withExtras at h
  dsimp only at h
  split at h
  · obtain ⟨read, extras, checked, rest, rfl⟩ := seq_valid h
    cases rest
    exact ⟨read, checked, rfl⟩
  · cases h

theorem passes_withExtras : (withExtras known members fields).Passes ↔
    fields.Passes ∧ ∀ member ∈ extrasOf known members, TextLike.encodes member.1 = true := by
  unfold withExtras
  dsimp only
  rw [← List.all_eq_true]
  split
  · rename_i encoded
    simp [passes_seq, passes_pure, encoded]
  · rename_i other
    simp [Checked.Passes, Checked.fail, other]

end Extras

/-- A resource shows the known fields of the object it was read from, null where they are not
there, and behind them the other members. -/
theorem resource_kept {members : Members Wide} {resource : Resource}
    (h : Resource.check (.obj members) = .valid resource) :
    resource.toMembers =
      (Resource.known.map fun name => (name, (members.get? name).getD .null)) ++
        extrasOf Resource.known members := by
  obtain ⟨read, sixth, rfl⟩ := withExtras_valid h
  obtain ⟨withProperties, properties, fifth, read₆, rfl⟩ := seq_valid sixth
  obtain ⟨withTags, tags, fourth, read₅, rfl⟩ := seq_valid fifth
  obtain ⟨withLocation, location, third, read₄, rfl⟩ := seq_valid fourth
  obtain ⟨withType, type, second, read₃, rfl⟩ := seq_valid third
  obtain ⟨withName, name, first, read₂, rfl⟩ := seq_valid second
  obtain ⟨id, read₁, rfl⟩ := map_valid first
  have text {field : Wide} {found : Option Wide}
      (read : Check.optional members field Check.text = .valid found) :
      Json.ofText? found = (members.get? field).getD .null := by
    rw [← optional_kept text_keeps read]
    cases found <;> rfl
  have inner : properties.elim .null Json.obj =
      (members.get? (TextLike.ofString "properties")).getD .null := by
    rw [← optional_kept (dictionary_keeps any_keeps) read₆]
    simp
  have tagged :
      tagsJson tags = (members.get? (TextLike.ofString "tags")).getD .null :=
    optional_kept (dictionary_keeps text_keeps) read₅
  unfold Resource.toMembers
  dsimp only
  rw [text read₁, text read₂, text read₃, text read₄, tagged, inner]
  rfl

/-- An object without its null members: every other name is there, with the value it had. -/
inductive Json.Pruned : Document → Document → Prop
  | obj {members fields : Members Wide} (names : (members.map Prod.fst).Nodup)
      (once : (fields.map Prod.fst).Nodup)
      (same : ∀ member, member ∈ fields ↔ member ∈ members ∧ member.2 ≠ .null) :
      Json.Pruned (.obj members) (.obj fields)

theorem known_nodup : (@Resource.known Wide _).Nodup := by
  decide

/-- What is shown of a resource is the object it was read from, without its null members. -/
theorem resource_pruned {value : Document} {resource : Resource}
    (h : Resource.check value = .valid resource) (distinct : value.Distinct) :
    Json.Pruned value (.obj resource.toMembers.present) := by
  cases distinct with
  | @obj members names values =>
    have kept := resource_kept h
    have shown : (resource.toMembers.map Prod.fst) =
        Resource.known ++ (extrasOf Resource.known members).map Prod.fst := by
      rw [kept, List.map_append, List.map_map]
      simp [Function.comp_def]
    have once : (resource.toMembers.map Prod.fst).Nodup := by
      rw [shown, List.nodup_append]
      refine ⟨known_nodup, names.sublist (List.filter_sublist.map _), ?_⟩
      intro name hk other hm
      obtain ⟨member, he, rfl⟩ := List.mem_map.mp hm
      have unknown := (List.mem_filter.mp he).2
      rintro rfl
      simp [hk] at unknown
    refine .obj names (once.sublist (List.filter_sublist.map _)) fun member => ?_
    obtain ⟨name, value⟩ := member
    rw [Members.mem_present]
    refine and_congr_left fun filled => ?_
    dsimp only at filled
    rw [kept, List.mem_append, List.mem_map, extrasOf, List.mem_filter,
      ← Members.get?_iff names]
    constructor
    · rintro (⟨known, -, same⟩ | ⟨there, -⟩)
      · cases same
        cases found : members.get? name with
        | none =>
          rw [found] at filled
          exact absurd rfl filled
        | some value => rfl
      · exact there
    · intro found
      by_cases known : name ∈ Resource.known
      · exact .inl ⟨name, known, by rw [found]; rfl⟩
      · exact .inr ⟨found, by simpa using known⟩
  | _ => cases h

/-! ## Pages -/

/-- The array of resources in the document of a page. Null, or nothing, is none. -/
def Page.received : Document → List Document
  | .obj members =>
    match Members.get? members (Page.itemsName members) with
    | some (.arr items) => items
    | _ => []
  | _ => []

/-- The items of a page are those of the array, in its order. -/
theorem page_received {κ : Type} {item : Check κ Wide} {value : Document} {page : Page κ}
    (h : Page.check item value = .valid page) :
    List.Forall₂ (fun received a => item received = .valid a) (Page.received value) page.items := by
  cases value with
  | obj members =>
    obtain ⟨withItems, link, checked, -, rfl⟩ := seq_valid h
    obtain ⟨items, read, rfl⟩ := map_valid checked
    unfold Page.received
    dsimp only
    rcases defaulted_valid read with ⟨absent, rfl⟩ | ⟨value, found, listed⟩
    · rw [absent]
      exact .nil
    · rw [found]
      split at listed
      · cases listed
        exact .nil
      · cases value with
        | arr values => exact items_valid listed
        | _ => cases listed
  | _ => cases h

theorem exists_received {κ : Type} {item : Check κ Wide} {received : List Document} {items : List κ}
    (h : List.Forall₂ (fun value a => item value = .valid a) received items) {a : κ}
    (ha : a ∈ items) : ∃ value ∈ received, item value = .valid a := by
  induction h with
  | nil => cases ha
  | @cons value first _ _ read _ ih =>
    rcases List.mem_cons.mp ha with rfl | ha
    · exact ⟨value, List.mem_cons_self, read⟩
    · obtain ⟨other, hm, read⟩ := ih ha
      exact ⟨other, List.mem_cons_of_mem _ hm, read⟩

theorem received_distinct {value : Document} (h : value.Distinct) :
    ∀ item ∈ Page.received value, item.Distinct := by
  intro item hi
  unfold Page.received at hi
  split at hi
  · cases h with
    | obj names values =>
      split at hi
      · rename_i found
        cases values _ ((Members.get?_iff names).mp found) with
        | arr items => exact items item hi
      · cases hi
  · cases hi

end LakeAdmin
