import LakeAdmin.Proofs.Model.Writable
import LakeAdmin.Proofs.Service.Hearing

/-!
What comes in with the responses to a walk: the arrays in their documents, one behind the
other. The items that the walk hands on are read from these values, as many and in the same
order, and whatever can be written there can be written still.
-/

namespace LakeAdmin

open Http

namespace Http.Response

/-- The values in the array of a response's document, as they came. -/
def received (response : Response) : List Document :=
  match Json.ofBytes response.levels response.body with
  | .ok document => Page.received document
  | .error _ => []

/-- The document of a response, if it holds one, can be written with room for so many levels. -/
def IsWritable (levels : Nat) (response : Response) : Prop :=
  ∀ document, Json.ofBytes response.levels response.body = .ok document →
    document.IsWritable levels

end Http.Response

/-- Resources are read from values, each from the one in its place. -/
def ReadFrom (values : List Document) (resources : List Resource) : Prop :=
  List.Forall₂ (fun value resource => Resource.check value = .valid resource) values resources

variable {response : Response} {responses : List Response} {page : Page Resource}
  {values : List Document} {items : List Resource} {levels : Nat}

/-! ## Responses -/

theorem received_document {document : Document}
    (read : Json.ofBytes response.levels response.body = .ok document) :
    response.received = Page.received document := by
  unfold Response.received
  rw [read]

theorem response_distinct : ∀ value ∈ response.received, value.Distinct := by
  intro value hv
  unfold Response.received at hv
  split at hv
  · rename_i read
    exact received_distinct (Json.ofBytes_distinct read) value hv
  · cases hv

theorem response_writable (written : response.IsWritable (levels + 2)) :
    ∀ value ∈ response.received, value.IsWritable levels := by
  intro value hv
  unfold Response.received at hv
  split at hv
  · rename_i read
    exact received_writable (written _ read) value hv
  · cases hv

/-- What a refusing response says can be written, if its text is one of characters. -/
theorem refusal_writable {body : Document} (written : response.IsWritable levels)
    (plain : ∀ text, response.text = .ok text → text.isPlain = true)
    (said : response.refusal = .ok body) : body.IsWritable levels := by
  obtain ⟨text, spoken, -⟩ := Response.refusal_ok.mp ⟨body, said⟩
  by_cases blank : text.allBlank = true
  · rw [Response.refusal_blank spoken blank] at said
    cases said
    exact Json.writable_str.mpr (plain text spoken)
  · rw [Response.refusal_full spoken blank] at said
    split at said
    · rename_i read
      cases said
      exact written _ read
    · cases said
      exact Json.writable_str.mpr (plain text spoken)
    · cases said

/-- The link of a page that can be written is one of characters. -/
theorem link_plain (good : response.resources = .ok page) (written : response.IsWritable levels) :
    ∀ link ∈ page.nextLink, link.isPlain = true := by
  obtain ⟨-, document, read, checked⟩ := resources_ok.mp good
  obtain ⟨members, rfl, -, shown⟩ := page_shows checked
  have document := written _ read
  obtain ⟨inner, rfl⟩ := Json.shallow_obj document
  rw [Json.writable_obj] at document
  intro link named
  rw [named] at shown
  cases first : Members.first? members Page.linkNames with
  | none =>
    rw [first] at shown
    cases shown
  | some value =>
    rw [first] at shown
    obtain ⟨member, there, rfl⟩ := Members.first?_mem first
    have written := (document member there).2
    rw [← show Json.str link = member.2 from shown] at written
    exact Json.writable_str.mp written

theorem resources_readFrom (good : response.resources = .ok page) :
    ReadFrom response.received page.items := by
  obtain ⟨-, document, read, checked⟩ := resources_ok.mp good
  rw [received_document read]
  exact page_received checked

/-! ## Walks -/

/-- The items of a walk are read from what is received, page behind page. -/
theorem itemsOf_readFrom (good : itemsOf responses = .ok items) :
    ReadFrom (responses.flatMap Response.received) items := by
  induction responses generalizing items with
  | nil =>
    cases good
    exact .nil
  | cons response rest ih =>
    rw [itemsOf_cons] at good
    cases first : response.resources with
    | error failure =>
      rw [first] at good
      cases good
    | ok page =>
      rw [first] at good
      obtain ⟨others, read, rfl⟩ := map_ok good
      rw [List.flatMap_cons]
      exact List.rel_append (resources_readFrom first) (ih read)

/-- Where all responses are pages, the walk has all of its items. -/
theorem itemsOf_pages (pages : ∀ response ∈ responses, ∃ page, response.resources = .ok page) :
    ∃ items, itemsOf responses = .ok items := by
  induction responses with
  | nil => exact ⟨[], rfl⟩
  | cons response rest ih =>
    obtain ⟨page, first⟩ := pages response List.mem_cons_self
    obtain ⟨others, read⟩ := ih fun other ho => pages other (List.mem_cons_of_mem _ ho)
    refine ⟨page.items ++ others, ?_⟩
    rw [itemsOf_cons, first, read]
    rfl

/-- No object that is received repeats a name. -/
theorem received_once (responses : List Response) :
    ∀ value ∈ responses.flatMap Response.received, value.Distinct := by
  intro value hv
  obtain ⟨response, -, hr⟩ := List.mem_flatMap.mp hv
  exact response_distinct value hr

theorem received_written (written : ∀ response ∈ responses, response.IsWritable (levels + 2)) :
    ∀ value ∈ responses.flatMap Response.received, value.IsWritable levels := by
  intro value hv
  obtain ⟨response, hm, hr⟩ := List.mem_flatMap.mp hv
  exact response_writable (written response hm) value hr

/-! ## Resources -/

/-- What is shown of resources that were read from objects is these objects, without their
null members. -/
theorem readFrom_pruned (read : ReadFrom values items) (once : ∀ value ∈ values, value.Distinct) :
    List.Forall₂ Json.Pruned values
      (items.map fun resource => .obj resource.toMembers.present) := by
  induction read with
  | nil => exact .nil
  | cons first _ ih =>
    rw [List.forall_mem_cons] at once
    exact .cons (resource_pruned first once.1) (ih once.2)

theorem readFrom_writable (read : ReadFrom values items)
    (written : ∀ value ∈ values, value.IsWritable levels) :
    ∀ resource ∈ items, (Json.obj resource.toMembers.present).IsWritable levels := by
  intro resource hr
  obtain ⟨value, hv, checked⟩ := exists_received read hr
  exact resource_writable checked (written value hv)

end LakeAdmin
