import LakeAdmin.Proofs.Http.Decode
import LakeAdmin.Proofs.Model.Grammar
import LakeAdmin.Proofs.Url.Host

/-!
Responses where a page is wanted. Such a response refuses, or it holds a page, or it is of no use:
its status and the grammar of its document decide which of the three. A document that is a page
but for one item is of no use, however many of its items are right. But where the text is asked for
and its codec cannot read it, or the document is nested too deep, the response is none of the three.
-/

namespace LakeAdmin

open Http Schema

inductive Http.Response.PageEnd {κ : Type} (item : Check κ Wide) (success : List Int)
    (response : Response) : Except Failure (Page κ) → Prop
  | refused (outside : response.status ∉ success) :
      Response.PageEnd item success response (.error response.refused)
  | page {value : Document} {page : Page κ} (inside : response.status ∈ success)
      (read : Json.ofBytes response.levels response.body = .ok value)
      (checked : Page.check item value = .valid page) :
      Response.PageEnd item success response (.ok page)
  | useless {reason : Undecodable} (inside : response.status ∈ success)
      (shallow : ∀ array, Json.ofBytes response.levels response.body ≠ .error (.tooDeep array))
      (none : ∀ value, Json.ofBytes response.levels response.body = .ok value →
        ¬(Page.check item value).Passes) :
      Response.PageEnd item success response (.error (response.malformed reason))
  | nested {array : Bool} (inside : response.status ∈ success)
      (deep : Json.ofBytes response.levels response.body = .error (.tooDeep array)) :
      Response.PageEnd item success response (.error (.nested array))

theorem page_ends {κ : Type} (item : Check κ Wide) (success : List Int) (response : Response) :
    response.PageEnd item success (response.page item success) := by
  by_cases inside : response.status ∈ success
  · unfold Response.page Response.document
    rw [Response.requireSuccess_accepted inside]
    cases read : Json.ofBytes response.levels response.body with
    | error fault =>
      cases fault with
      | unreadable e => exact .useless inside (by simp [read]) (by simp [read])
      | tooDeep array => exact .nested inside read
    | ok value =>
      cases checked : Page.check item value with
      | valid page =>
        simp only [bind, Except.bind, checked]
        exact .page inside read checked
      | invalid issues =>
        simp only [bind, Except.bind, checked]
        refine .useless inside (by simp [read]) fun other again => ?_
        rw [read] at again
        cases again
        rintro ⟨page, passed⟩
        rw [checked] at passed
        cases passed
  · rw [Response.page_refused inside]
    exact .refused inside

/-- A response holds a page if and only if its document passes for one. -/
theorem page_ok {κ : Type} {item : Check κ Wide} {success : List Int} {response : Response}
    {page : Page κ} :
    response.page item success = .ok page ↔ response.status ∈ success ∧
      ∃ value, Json.ofBytes response.levels response.body = .ok value ∧
        Page.check item value = .valid page := by
  have ends := page_ends item success response
  generalize response.page item success = result at ends
  cases ends with
  | refused outside => simp [outside]
  | page inside read checked => simp [inside, read, checked]
  | useless inside shallow none =>
    refine iff_of_false nofun ?_
    rintro ⟨-, value, read, checked⟩
    exact none value read ⟨page, checked⟩
  | nested inside deep => simp [deep]

namespace Http.Response

def HoldsPage (response : Response) : Prop :=
  ∃ value, Json.ofBytes response.levels response.body = .ok value ∧ value.IsPage Json.IsResource

/-- There is room for the document of a response, if it holds one. -/
def IsShallow (response : Response) : Prop :=
  ∀ array, Json.ofBytes response.levels response.body ≠ .error (.tooDeep array)

variable {response : Response}

/-- What a refusal says is known if its text can be read, and its document too, unless the text
is blank. -/
theorem refusal_ok : (∃ body, response.refusal = .ok body) ↔
    ∃ text, response.text = .ok text ∧ (text.allBlank = true ∨ response.IsShallow) := by
  unfold IsShallow
  cases spoken : response.text with
  | error fault => simp [refusal_unspoken spoken]
  | ok text =>
    by_cases blank : text.allBlank = true
    · simp [refusal_blank spoken blank, blank]
    · rw [refusal_full spoken blank]
      cases held : Json.ofBytes response.levels response.body with
      | ok value => simp
      | error fault => cases fault <;> simp [blank]

theorem refused_fault_iff :
    (∃ fault, response.refused = .fault fault) ↔ ∃ body, response.refusal = .ok body := by
  constructor
  · rintro ⟨fault, same⟩
    rcases refused_ends response with ⟨body, read, -⟩ | unread
    · exact ⟨body, read⟩
    · rw [same] at unread
      cases unread
  · rintro ⟨body, read⟩
    exact ⟨_, refused_ok read⟩

theorem malformed_iff {text : Wide} {reason : Undecodable} :
    (∃ other, response.malformed reason = .malformed response.status text other) ↔
      response.text = .ok text := by
  unfold malformed
  cases read : response.text with
  | ok found => simp
  | error fault => simp

end Http.Response

structure Http.Response.Decodes (response : Response) (success : List Int)
    (result : Except Failure (Page Resource)) : Prop where
  /-- It is a fault if and only if its status does not mean success, and what it says can be
  read. -/
  fault : (∃ fault, result = .error (.fault fault)) ↔ response.status ∉ success ∧
    ∃ text, response.text = .ok text ∧ (text.allBlank = true ∨ response.IsShallow)
  /-- It is a page if and only if its status means success and its document is one. -/
  page : (∃ page, result = .ok page) ↔ response.status ∈ success ∧ response.HoldsPage
  /-- It is of no use in every other case, with its text, if this and a document can be read. -/
  malformed : ∀ text, (∃ reason, result = .error (.malformed response.status text reason)) ↔
    response.status ∈ success ∧ ¬response.HoldsPage ∧ response.IsShallow ∧
      response.text = .ok text
  /-- What else it comes to is that it cannot be read. -/
  unread : ∀ failure, result = .error failure → (∃ fault, failure = .fault fault) ∨
    (∃ text reason, failure = .malformed response.status text reason) ∨ response.Unread failure
  /-- A page shows the whole document. -/
  shows : ∀ page, result = .ok page →
    ∃ value, Json.ofBytes response.levels response.body = .ok value ∧ page.Shows value

/-- Whether a response is a fault, a page or of no use is decided by its status and by the grammar
of its document, as long as it can be read. -/
theorem page_decodes (response : Response) (success : List Int) :
    response.Decodes success (response.page Resource.check success) := by
  have grammar (value : Document) :
      (Page.check Resource.check value).Passes ↔ value.IsPage Json.IsResource := by
    simp only [page_passes, resource_passes]
  have ends := page_ends Resource.check success response
  generalize response.page Resource.check success = result at ends
  cases ends with
  | refused outside =>
    have refused := Response.refused_ends response
    refine ⟨?_, by simp [outside], fun text => ?_, ?_, nofun⟩
    · simp only [outside, not_false_iff, true_and, Except.error.injEq]
      exact Response.refused_fault_iff.trans Response.refusal_ok
    · refine iff_of_false ?_ fun inside => outside inside.1
      rintro ⟨reason, same⟩
      rcases refused with ⟨body, -, other⟩ | unread
      · cases other.symm.trans (Except.error.inj same)
      · rw [Except.error.inj same] at unread
        cases unread
    · rintro _ ⟨⟩
      rcases refused with ⟨body, -, same⟩ | unread
      · exact .inl ⟨_, same⟩
      · exact .inr (.inr unread)
  | @page value page inside read checked =>
    have holds : response.HoldsPage := ⟨value, read, (grammar value).mp ⟨page, checked⟩⟩
    refine ⟨by simp [inside], by simp [inside, holds], by simp [holds], nofun, ?_⟩
    rintro _ ⟨⟩
    exact ⟨value, read, page_shows checked⟩
  | @useless reason inside shallow none =>
    have without : ¬response.HoldsPage :=
      fun ⟨value, read, shaped⟩ => none value read ((grammar value).mpr shaped)
    have useless := Response.malformed_ends response reason
    refine ⟨iff_of_false ?_ fun outside => outside.1 inside, by simp [without], fun text => ?_, ?_,
      nofun⟩
    · rintro ⟨fault, same⟩
      rcases useless with ⟨text, -, other⟩ | unread
      · cases other.symm.trans (Except.error.inj same)
      · rw [Except.error.inj same] at unread
        cases unread
    · have shallow : response.IsShallow := shallow
      simp only [inside, without, shallow, not_false_iff, true_and, Except.error.injEq]
      exact Response.malformed_iff
    · rintro _ ⟨⟩
      rcases useless with ⟨text, -, same⟩ | unread
      · exact .inr (.inl ⟨text, reason, same⟩)
      · exact .inr (.inr unread)
  | @nested array inside deep =>
    have without : ¬response.HoldsPage := by
      rintro ⟨value, read, -⟩
      cases deep.symm.trans read
    have deeper : ¬response.IsShallow := fun shallow => shallow array deep
    refine ⟨by simp [inside], by simp [without], by simp [deeper], ?_, nofun⟩
    rintro _ ⟨⟩
    exact .inr (.inr (.nested deep))

/-- A page of two items by its other names, one of two items that is none because the name of its
last item is a number, one that is none because the name of an extra member is half a pair, and a
text that its codec refuses to read. -/
theorem page_decodes_whole :
    ∃ good bad ragged lost : Response,
      (∀ response ∈ [good, bad, ragged, lost], response.status = 200) ∧
      (∃ page, good.page Resource.check [200] = .ok page ∧ page.items.length = 2 ∧
        page.nextLink = some (.plain "n") ∧
        ∃ value, Json.ofBytes good.levels good.body = .ok value ∧ page.Shows value) ∧
      (∀ response ∈ [bad, ragged], ∃ text reason, response.text = .ok text ∧
        response.page Resource.check [200] = .error (.malformed 200 text reason)) ∧
      lost.page Resource.check [200] = .error (.codec ⟨"UnicodeError", "undefined encoding"⟩) := by
  let response (body : String) : Response := ⟨200, [], Text.Utf8.encode body, none, none, 100⟩
  let good := response
    "\x7b\"items\":[\x7b\"name\":\"a\"\x7d,\x7b\"x\":1\x7d],\"@odata.nextLink\":\"n\"\x7d"
  let bad := response "\x7b\"value\":[\x7b\"name\":\"a\"\x7d,\x7b\"name\":1\x7d]\x7d"
  let ragged := response "\x7b\"value\":[\x7b\"\\ud800\":1\x7d]\x7d"
  let lost : Response := ⟨200, [], [0x5B], none, some Text.Codec.undefined, 100⟩
  have parts : (good.page Resource.check [200]).toOption.map
      (fun page => (page.items.length, page.nextLink)) = some (2, some (.plain "n")) := by
    decide +kernel
  obtain ⟨page, found, same⟩ := Option.map_eq_some_iff.mp parts
  obtain ⟨count, link⟩ := Prod.mk.inj same
  have read := Url.ok_of_toOption found
  have useless {other : Response} (success : other.status = 200) (plain : other.codec = none)
      (deep : (Json.ofBytes other.levels other.body).toOption.isSome = true)
      (none : (other.page Resource.check [200]).toOption.isNone = true) :
      ∃ text reason, other.text = .ok text ∧
        other.page Resource.check [200] = .error (.malformed 200 text reason) := by
    have decodes := page_decodes other [200]
    have text : other.text = .ok (.plain (String.ofList (Text.Utf8.replace other.body))) := by
      unfold Response.text
      rw [plain]
    have inside : other.status ∈ [(200 : Int)] := by simp [success]
    have without : ¬other.HoldsPage := by
      intro holds
      obtain ⟨page, passed⟩ := decodes.page.mpr ⟨inside, holds⟩
      rw [passed] at none
      cases none
    have shallow : other.IsShallow := by
      intro array fault
      rw [fault] at deep
      cases deep
    obtain ⟨reason, same⟩ := (decodes.malformed _).mpr ⟨inside, without, shallow, text⟩
    exact ⟨_, reason, text, success ▸ same⟩
  refine ⟨good, bad, ragged, lost, by simp [good, bad, ragged, lost, response],
    ⟨page, read, count, link, (page_decodes good [200]).shows page read⟩, ?_, rfl⟩
  simp only [List.forall_mem_cons, List.not_mem_nil, false_imp_iff, implies_true, and_true]
  exact ⟨useless rfl rfl (by decide +kernel) (by decide +kernel),
    useless rfl rfl (by decide +kernel) (by decide +kernel)⟩

end LakeAdmin
