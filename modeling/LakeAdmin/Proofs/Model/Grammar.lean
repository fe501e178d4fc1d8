import LakeAdmin.Proofs.Json.Shape
import LakeAdmin.Proofs.Model.Kept

/-!
The grammar of resources and of pages. A document is taken for a page if and only if it is one
by the grammar, down to every item of its array, and then the page shows all of it.
-/

namespace LakeAdmin

open Schema

/-! ## The grammar -/

/-- The names under which the items of a page may stand, the first present one counting. -/
def Page.itemNames : List Wide := ["value", "items"]

/-- The members of a resource. What else an object has is free, as long as its name is of
characters. -/
structure Members.IsResource (members : Members Wide) : Prop where
  texts : ∀ name ∈ ["id", "name", "type", "location"], members.Allows name Json.IsText
  tags : members.Allows "tags" (Json.IsObjectOf Json.IsText)
  properties : members.Allows "properties" Json.IsObject
  names : ∀ member ∈ extrasOf Resource.known members, member.1.isPlain = true

def Json.IsResource (value : Document) : Prop :=
  ∃ members : Members Wide, value = .obj members ∧ members.IsResource

structure Members.IsPage (item : Document → Prop) (members : Members Wide) : Prop where
  items : ∀ value ∈ members.first? Page.itemNames, value = .null ∨ value.IsArrayOf item
  link : ∀ value ∈ members.first? Page.linkNames, value = .null ∨ value.IsText

def Json.IsPage (item : Document → Prop) (value : Document) : Prop :=
  ∃ members : Members Wide, value = .obj members ∧ members.IsPage item

/-- A resource mirrors an object: its known fields are those of the object, null where the object
has none, and all other members follow in their order. -/
def Resource.Mirrors (value : Document) (resource : Resource) : Prop :=
  ∃ members : Members Wide, value = .obj members ∧
    resource.toMembers =
      (Resource.known.map fun name => (name, (members.get? name).getD .null)) ++
        extrasOf Resource.known members

/-- A page shows a document: each item mirrors the one in its place in the array, and the link is
the first that is there. -/
def Page.Shows (page : Page Resource) (value : Document) : Prop :=
  ∃ members : Members Wide, value = .obj members ∧
    List.Forall₂ Resource.Mirrors ((members.first? Page.itemNames).getD .null).items page.items ∧
    Json.ofText? page.nextLink = (members.first? Page.linkNames).getD .null

/-! ## Resources -/

variable {κ : Type} {item : Check κ Wide} {value : Document} {members : Members Wide}

/-- What passes for a resource is one by the grammar. -/
theorem resource_passes : (Resource.check value).Passes ↔ value.IsResource := by
  unfold Resource.check
  rw [passes_object]
  refine exists_congr fun members => and_congr_right' ?_
  simp only [passes_withExtras, passes_seq, passes_map, passes_optional, passes_text,
    passes_dictionary, passes_any, implies_true, and_true]
  constructor
  · rintro ⟨⟨⟨⟨⟨⟨id, name⟩, type⟩, location⟩, tags⟩, properties⟩, names⟩
    refine ⟨?_, tags, properties, names⟩
    simp only [List.forall_mem_cons, List.not_mem_nil, false_imp_iff, implies_true, and_true]
    exact ⟨id, name, type, location⟩
  · rintro ⟨texts, tags, properties, names⟩
    simp only [List.forall_mem_cons, List.not_mem_nil, false_imp_iff, implies_true, and_true]
      at texts
    obtain ⟨id, name, type, location⟩ := texts
    exact ⟨⟨⟨⟨⟨⟨id, name⟩, type⟩, location⟩, tags⟩, properties⟩, names⟩

/-! ## Pages -/

theorem get?_itemsName (members : Members Wide) :
    members.get? (Page.itemsName members) = members.first? Page.itemNames := by
  unfold Page.itemsName Page.itemNames Members.first?
  rw [Members.has_iff]
  cases found : members.get? "value" with
  | none =>
    cases other : members.get? "items" <;> simp [found, other]
  | some value => simp [found]

theorem get?_linkName (members : Members Wide) :
    members.get? ((Page.linkNames.find? (members.has ·)).getD "nextLink") =
      members.first? Page.linkNames := by
  rw [← Members.find?_first?]
  cases none : Page.linkNames.find? (members.has ·) with
  | none => exact Members.first?_none none "nextLink" (by decide)
  | some name => rfl

theorem passes_pageItems :
    (match value with
      | .null => .valid []
      | value => Check.list item value : Checked (List κ)).Passes ↔
      value = .null ∨ value.IsArrayOf fun x => (item x).Passes := by
  split
  · simp [Checked.Passes]
  · rename_i filled
    rw [or_iff_right filled]
    exact passes_list

/-- What passes for a page is one by the grammar, with items that pass. -/
theorem page_passes :
    (Page.check item value).Passes ↔ value.IsPage fun x => (item x).Passes := by
  unfold Page.check
  rw [passes_object]
  refine exists_congr fun members => and_congr_right' ?_
  dsimp only
  rw [passes_seq, passes_map, passes_defaulted, passes_optional, get?_itemsName, get?_linkName]
  simp only [passes_text]
  constructor
  · rintro ⟨items, link⟩
    exact ⟨fun value found => passes_pageItems.mp (items value found), link⟩
  · rintro ⟨items, link⟩
    exact ⟨fun value found => passes_pageItems.mpr (items value found), link⟩

theorem resource_mirrors {resource : Resource} (h : Resource.check value = .valid resource) :
    resource.Mirrors value := by
  cases value with
  | obj members => exact ⟨members, rfl, resource_kept h⟩
  | _ => cases h

theorem received_obj (members : Members Wide) :
    Page.received (.obj members) = ((members.first? Page.itemNames).getD .null).items := by
  unfold Page.received
  dsimp only
  rw [get?_itemsName]
  cases members.first? Page.itemNames with
  | none => rfl
  | some value => cases value <;> rfl

/-- A page that is read shows the document. -/
theorem page_shows {page : Page Resource} (h : Page.check Resource.check value = .valid page) :
    page.Shows value := by
  have read := (page_received h).imp fun _ _ => resource_mirrors
  cases value with
  | obj members =>
    obtain ⟨withItems, link, front, linked, rfl⟩ := seq_valid h
    obtain ⟨items, -, rfl⟩ := map_valid front
    refine ⟨members, rfl, ?_, ?_⟩
    · rw [received_obj] at read
      exact read
    · rw [← get?_linkName, ← optional_kept text_keeps linked]
      cases link <;> rfl
  | _ => cases h

end LakeAdmin
