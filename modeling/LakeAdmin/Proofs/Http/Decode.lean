import LakeAdmin.Http.Decode

/-!
Responses and the statuses that mean success. Whatever a response is read as, its status is looked
at first: outside these statuses it is refused, and nothing else is made of its body. To be refused
or to be of no use is a failure that holds the text of the response, so it takes a text that can be
read.
-/

namespace LakeAdmin.Http.Response

variable {response : Response} {success : List Int} {text : Wide}

/-- A response of a status alone. -/
def bare (status : Int) : Response := ⟨status, [], [], none, none, 100⟩

/-! ## What cannot be read -/

/-- What keeps a response from being read: the codec of its text, or how deep its document is
nested. -/
inductive Unread (response : Response) : Failure → Prop
  | codec {fault : Text.CodecFault} (text : response.text = .error fault) :
      Unread response (.codec fault)
  | nested {array : Bool}
      (document : Json.ofBytes response.levels response.body = .error (.tooDeep array)) :
      Unread response (.nested array)

/-- A refusal whose text cannot be read says nothing else. -/
theorem refusal_unspoken {fault : Text.CodecFault} (h : response.text = .error fault) :
    response.refusal = .error (.codec fault) := by
  unfold refusal
  rw [h]
  rfl

theorem refusal_blank (spoken : response.text = .ok text) (blank : text.allBlank = true) :
    response.refusal = .ok (.str text) := by
  unfold refusal
  rw [spoken]
  dsimp only [Except.mapError, bind, Except.bind]
  rw [if_pos blank]
  rfl

theorem refusal_full (spoken : response.text = .ok text) (full : ¬text.allBlank = true) :
    response.refusal =
      match Json.ofBytes response.levels response.body with
      | .ok value => .ok value
      | .error (.unreadable _) => .ok (.str text)
      | .error (.tooDeep array) => .error (.nested array) := by
  unfold refusal
  rw [spoken]
  dsimp only [Except.mapError, bind, Except.bind]
  rw [if_neg full]
  rfl

theorem refusal_ends (response : Response) :
    (∃ body, response.refusal = .ok body) ∨
      ∃ failure, response.Unread failure ∧ response.refusal = .error failure := by
  cases spoken : response.text with
  | error fault => exact .inr ⟨_, .codec spoken, refusal_unspoken spoken⟩
  | ok text =>
    by_cases blank : text.allBlank = true
    · exact .inl ⟨_, refusal_blank spoken blank⟩
    · rw [refusal_full spoken blank]
      cases held : Json.ofBytes response.levels response.body with
      | ok value => exact .inl ⟨_, rfl⟩
      | error fault =>
        cases fault with
        | unreadable e => exact .inl ⟨_, rfl⟩
        | tooDeep array => exact .inr ⟨_, .nested held, rfl⟩

def faultOf (response : Response) (body : Document) : Fault :=
  ⟨response.status, body, response.request.map (·.1), response.request.map (·.2)⟩

theorem refused_ok {body : Document} (h : response.refusal = .ok body) :
    response.refused = .fault (response.faultOf body) := by
  unfold refused fault
  rw [h]
  rfl

theorem refused_error {failure : Failure} (h : response.refusal = .error failure) :
    response.refused = failure := by
  unfold refused fault
  rw [h]
  rfl

/-- A refusal is a fault, unless it cannot be read. -/
theorem refused_ends (response : Response) :
    (∃ body, response.refusal = .ok body ∧ response.refused = .fault (response.faultOf body)) ∨
      response.Unread response.refused := by
  rcases refusal_ends response with ⟨body, read⟩ | ⟨failure, unread, lost⟩
  · exact .inl ⟨body, read, refused_ok read⟩
  · right
    rw [refused_error lost]
    exact unread

/-- What is of no use is said to be, unless its text cannot be read. -/
theorem malformed_ends (response : Response) (reason : Undecodable) :
    (∃ text, response.text = .ok text ∧
      response.malformed reason = .malformed response.status text reason) ∨
      response.Unread (response.malformed reason) := by
  unfold malformed
  cases read : response.text with
  | ok text => exact .inl ⟨text, rfl, rfl⟩
  | error fault => exact .inr (.codec read)

/-! ## Statuses -/

theorem requireSuccess_accepted (accepted : response.status ∈ success) :
    response.requireSuccess success = .ok () :=
  if_pos (List.contains_iff_mem.mpr accepted)

theorem requireSuccess_refused (refused : response.status ∉ success) :
    response.requireSuccess success = .error response.refused :=
  if_neg fun listed => refused (List.contains_iff_mem.mp listed)

theorem requireSuccess_ok (h : response.requireSuccess success = .ok ()) :
    response.status ∈ success := by
  by_cases accepted : response.status ∈ success
  · exact accepted
  · rw [requireSuccess_refused accepted] at h
    cases h

theorem page_refused {κ : Type} (refused : response.status ∉ success)
    (item : Schema.Check κ Wide) : response.page item success = .error response.refused := by
  unfold page
  rw [requireSuccess_refused refused]
  rfl

theorem documentIfAny_refused (refused : response.status ∉ success) :
    response.documentIfAny success = .error response.refused := by
  unfold documentIfAny
  rw [requireSuccess_refused refused]
  rfl

theorem value_refused {α : Type} (refused : response.status ∉ success) (kind : String)
    (check : Schema.Check α Wide) :
    response.value kind check success = .error response.refused := by
  unfold value
  rw [documentIfAny_refused refused]
  rfl

end LakeAdmin.Http.Response
