import LakeAdmin.Proofs.Gateway.Call
import LakeAdmin.Proofs.Json.Document
import LakeAdmin.Proofs.Service.Caching
import LakeAdmin.Proofs.Service.Receiving

/-!
How a call to the gateway turns out. The first response that the call cannot use settles the
answer and is the last one that is heard: the answer passes a refusal on, or says why a body is
of no use, or breaks off because the response cannot be read. A call that has use for all
responses is answered with what it is for. What is of no use is told from the response alone, its
status and then its body.
-/

namespace LakeAdmin.Gateway

open Http Explorer Url

/-! ## Responses of no use -/

/-- What is wrong with a response: its status does not mean success, and then it says something;
its body is not what was asked for; or it cannot be read. -/
inductive Flaw where
  | refused (body : Document)
  | undecodable (reason : Undecodable)
  | unread (failure : Failure)

def refusalFlaw (response : Response) : Flaw :=
  match response.refusal with
  | .ok body => .refused body
  | .error failure => .unread failure

/-- The flaw of a body that is not what was asked for. It holds the text. -/
def bodyFlaw (response : Response) (reason : Undecodable) : Flaw :=
  match response.text with
  | .ok _ => .undecodable reason
  | .error fault => .unread (.codec fault)

def documentFlaw? {α : Type} (check : Schema.Check α Wide)
    (reason : List Schema.Issue → Undecodable) (response : Response) : Option Flaw :=
  match Json.ofBytes response.levels response.body with
  | .error (.unreadable e) => some (bodyFlaw response (.json e))
  | .error (.tooDeep array) => some (.unread (.nested array))
  | .ok document =>
    match check document with
    | .valid _ => none
    | .invalid issues => some (bodyFlaw response (reason issues))

def pageFlaw? : Response → Option Flaw :=
  documentFlaw? (Page.check Resource.check) fun issues => .page issues.length

/-- What is wrong with a body where an account is wanted. A blank one stands for no account. -/
def accountFlaw? (response : Response) : Option Flaw :=
  if response.isBlank then none
  else documentFlaw? Resource.check (fun _ => .model "Resource") response

def Call.bodyFlaw? : Call → Response → Option Flaw
  | account _ => accountFlaw?
  | _ => pageFlaw?

def Call.flaw? (call : Call) (response : Response) : Option Flaw :=
  if response.status ≠ 200 then some (refusalFlaw response) else call.bodyFlaw? response

/-- The first of some responses that a call has no use for, and what is wrong with it. -/
def Call.stumble? (call : Call) (responses : List Response) : Option (Response × Flaw) :=
  responses.findSome? fun response => (call.flaw? response).map (response, ·)

def Flaw.failure (response : Response) : Flaw → Failure
  | refused body => .fault (response.faultOf body)
  | undecodable reason => response.malformed reason
  | unread failure => failure

/-- What is read from responses fails with what is wrong with the first one of no use, and
with nothing else. -/
def Settles {α : Type} (first : Option (Response × Flaw)) (found : Except Failure α) : Prop :=
  match first with
  | some (response, flaw) => found = .error (flaw.failure response)
  | none => ∃ a, found = .ok a

theorem Settles.map {α β : Type} {first : Option (Response × Flaw)} {found : Except Failure α}
    (h : Settles first found) (f : α → β) : Settles first (found.map f) := by
  unfold Settles at h ⊢
  cases first with
  | some stumbled =>
    dsimp only at h ⊢
    rw [h]
    rfl
  | none =>
    obtain ⟨a, rfl⟩ := h
    exact ⟨f a, rfl⟩

theorem stumble?_cons (call : Call) (response : Response) (responses : List Response) :
    call.stumble? (response :: responses) =
      match call.flaw? response with
      | some flaw => some (response, flaw)
      | none => call.stumble? responses := by
  unfold Call.stumble?
  rw [List.findSome?_cons]
  cases call.flaw? response <;> rfl

/-! ## What calls come to -/

variable {call : Call} {world after : World} {responses : List Response}

theorem refusalFlaw_failure (response : Response) :
    (refusalFlaw response).failure response = response.refused := by
  unfold refusalFlaw
  cases said : response.refusal with
  | ok body => exact (Response.refused_ok said).symm
  | error failure => exact (Response.refused_error said).symm

theorem bodyFlaw_failure (response : Response) (reason : Undecodable) :
    (bodyFlaw response reason).failure response = response.malformed reason := by
  unfold bodyFlaw
  cases spoken : response.text with
  | ok text => rfl
  | error fault =>
    unfold Response.malformed
    rw [spoken]
    rfl

/-- What is read from a response fails with what is wrong with it, and with nothing else. -/
def Flawed {α : Type} (response : Response) (wrong : Option Flaw) (found : Except Failure α) :
    Prop :=
  match wrong with
  | some flaw => found = .error (flaw.failure response)
  | none => ∃ a, found = .ok a

theorem flawed_settles {α : Type} {response : Response} {found : Except Failure α}
    (h : Flawed response (call.flaw? response) found) :
    Settles (call.stumble? [response]) found := by
  rw [stumble?_cons]
  cases wrong : call.flaw? response with
  | some flaw =>
    rw [wrong] at h
    exact h
  | none =>
    rw [wrong] at h
    exact h

theorem flawed_refused {α : Type} {response : Response} {found : Except Failure α}
    (h : found = .error response.refused) :
    Flawed response (some (refusalFlaw response)) found := by
  show found = .error _
  rw [h, refusalFlaw_failure]

/-- What is found out about a document where one of a kind is wanted. -/
inductive Examined {α : Type} (check : Schema.Check α Wide)
    (reason : List Schema.Issue → Undecodable) (response : Response) : Option Flaw → Prop
  | unread {flaw : Flaw} (lost : response.document = .error (flaw.failure response)) :
      Examined check reason response (some flaw)
  | invalid {value : Document} {issues : List Schema.Issue} (read : response.document = .ok value)
      (checked : check value = .invalid issues) :
      Examined check reason response (some (bodyFlaw response (reason issues)))
  | valid {value : Document} {a : α} (read : response.document = .ok value)
      (checked : check value = .valid a) : Examined check reason response none

theorem document_examined {α : Type} (check : Schema.Check α Wide)
    (reason : List Schema.Issue → Undecodable) (response : Response) :
    Examined check reason response (documentFlaw? check reason response) := by
  unfold documentFlaw?
  cases read : Json.ofBytes response.levels response.body with
  | error fault =>
    cases fault with
    | unreadable e =>
      refine .unread ?_
      rw [bodyFlaw_failure]
      unfold Response.document
      rw [read]
    | tooDeep array =>
      refine .unread ?_
      unfold Response.document
      rw [read]
      rfl
  | ok document =>
    have whole : response.document = .ok document := by
      unfold Response.document
      rw [read]
    dsimp only
    cases checked : check document with
    | valid a => exact .valid whole checked
    | invalid issues => exact .invalid whole checked

theorem resources_settles (paged : call.bodyFlaw? = pageFlaw?) (response : Response) :
    Settles (call.stumble? [response]) response.resources := by
  apply flawed_settles
  unfold Call.flaw? Response.resources
  rw [paged]
  by_cases success : response.status = 200
  · have accepted : response.status ∈ listSuccess := by simp [listSuccess, success]
    have examined := document_examined (Page.check Resource.check)
      (fun issues => .page issues.length) response
    unfold Response.page pageFlaw?
    rw [if_neg (not_not.mpr success), Response.requireSuccess_accepted accepted]
    generalize documentFlaw? _ _ response = wrong at examined ⊢
    cases examined with
    | unread lost => simp [Flawed, lost, bind, Except.bind]
    | invalid read checked =>
      simp [Flawed, read, checked, bodyFlaw_failure, bind, Except.bind, throw, throwThe,
        MonadExceptOf.throw]
    | valid read checked => simp [Flawed, read, checked, bind, Except.bind, pure, Except.pure]
  · have refused : response.status ∉ listSuccess := by simp [listSuccess, success]
    rw [if_pos success]
    exact flawed_refused (Response.page_refused refused Resource.check)

theorem account_settles (path : String) (response : Response) :
    Settles (Call.stumble? (.account path) [response]) (response.resource [200]) := by
  apply flawed_settles
  unfold Call.flaw? Response.resource
  by_cases success : response.status = 200
  · have accepted : response.status ∈ [(200 : Int)] := by simp [success]
    have examined := document_examined Resource.check (fun _ => .model "Resource") response
    rw [if_neg (not_not.mpr success)]
    show Flawed response (accountFlaw? response) _
    unfold Response.value Response.documentIfAny accountFlaw?
    rw [Response.requireSuccess_accepted accepted]
    generalize documentFlaw? _ _ response = wrong at examined ⊢
    cases blank : response.isBlank with
    | true => exact ⟨none, rfl⟩
    | false =>
      cases examined with
      | unread lost => simp [Flawed, lost, bind, Except.bind]
      | invalid read checked =>
        simp [Flawed, read, checked, bodyFlaw_failure, bind, Except.bind, pure, Except.pure,
          throw, throwThe, MonadExceptOf.throw]
      | valid read checked => simp [Flawed, read, checked, bind, Except.bind, pure, Except.pure]
  · have refused : response.status ∉ [(200 : Int)] := by simp [success]
    rw [if_pos success]
    exact flawed_refused (Response.value_refused refused _ _)

/-- The items of a walk fail with what is wrong with the first response of no use. -/
theorem itemsOf_settles (paged : call.bodyFlaw? = pageFlaw?) (responses : List Response) :
    Settles (call.stumble? responses) (itemsOf responses) := by
  induction responses with
  | nil => exact ⟨[], rfl⟩
  | cons response rest ih =>
    have reads := resources_settles paged response
    rw [stumble?_cons] at reads ⊢
    rw [itemsOf_cons]
    cases wrong : call.flaw? response with
    | some flaw =>
      rw [wrong] at reads
      have refused : response.resources = .error (flaw.failure response) := reads
      rw [refused]
      rfl
    | none =>
      rw [wrong] at reads
      obtain ⟨page, good⟩ : ∃ page, response.resources = .ok page := reads
      rw [good]
      exact ih.map _

theorem yields_settles {result : Except Failure Document}
    (yields : call.Yields world responses result) :
    Settles (call.stumble? responses) result := by
  cases yields with
  | page => exact (resources_settles rfl _).map _
  | whole => exact (itemsOf_settles rfl _).map _
  | held found => exact ⟨_, rfl⟩
  | walked absent => exact (itemsOf_settles rfl _).map _
  | account => exact (account_settles _ _).map _

/-! ## What can be written -/

/-- What a response holds can be shown in an answer: its document with one level around it, and
its text as it is. -/
structure Room.Fits (room : Room) (response : Response) : Prop where
  shown : response.IsWritable (room.levels 200 - 1)
  passed : response.IsWritable (room.levels 502 - 1)
  spoken : ∀ text, response.text = .ok text → text.isPlain = true

/-- The list that the cache has for a call, if it has one, can be shown in an answer. -/
def Call.HoldsFit (room : Room) (world : World) : Call → Prop
  | cached _ sub false => ∀ accounts, heldList world sub = some accounts →
      ∀ resource ∈ accounts, (resourceJson resource).IsWritable (room.levels 200 - 2)
  | _ => True

theorem room_inner (room : Room) (status : Int) :
    ∃ inner, room.levels status = inner + 2 := by
  have ample := room.ample status
  exact ⟨room.levels status - 2, by omega⟩

/-- A response fits into any room if it holds a shallow document of finite numbers and of
characters, or none at all. -/
theorem fits_shallow {room : Room} {response : Response}
    (spoken : ∀ text, response.text = .ok text → text.isPlain = true)
    (plain : (Json.ofBytes response.levels response.body).toOption.all
      (fun value => value.depth ≤ 3 && value.isFinite && value.isPlain) = true) :
    room.Fits response := by
  have written (status : Int) : response.IsWritable (room.levels status - 1) := by
    intro document read
    rw [read] at plain
    simp only [Except.toOption, Option.all_some, Bool.and_eq_true, decide_eq_true_eq] at plain
    have ample := room.ample status
    exact ⟨by omega, plain.1.2, plain.2⟩
  exact ⟨written 200, written 502, spoken⟩

theorem resource_found {response : Response} {success : List Int} {resource : Resource}
    (good : response.resource success = .ok (some resource)) :
    ∃ document, Json.ofBytes response.levels response.body = .ok document ∧
      Resource.check document = .valid resource := by
  obtain ⟨found, any, good⟩ := bind_ok good
  cases found with
  | none => cases good
  | some document =>
    dsimp only at good
    split at good
    · rename_i checked
      cases good
      obtain ⟨-, -, any⟩ := bind_ok any
      split at any
      · cases any
      · obtain ⟨read, decoded, any⟩ := bind_ok any
        cases any
        unfold Response.document at decoded
        split at decoded
        · rename_i whole
          cases decoded
          exact ⟨document, whole, checked⟩
        · cases decoded
        · cases decoded
    · cases good

theorem accountJson_writable {levels : Nat} {response : Response} {value : Document}
    (written : response.IsWritable levels) (good : accountJson response = .ok value) :
    value.IsWritable (levels + 1) := by
  obtain ⟨found, read, rfl⟩ := map_ok good
  cases found with
  | none => simp [Wide.isPlain]
  | some resource =>
    obtain ⟨document, decoded, checked⟩ := resource_found read
    have shown : (resourceJson resource).IsWritable levels :=
      resource_writable checked (written document decoded)
    simp [Wide.isPlain, shown]

/-- The page of a response that fits can be written. -/
theorem page_shown {room : Room} {response : Response} {page : Page Resource}
    (fits : room.Fits response) (good : response.resources = .ok page) :
    (pageJson page).IsWritable (room.levels 200) := by
  obtain ⟨inner, levels⟩ := room_inner room 200
  have shown := fits.shown
  rw [levels] at shown ⊢
  have written : response.IsWritable (inner + 2) := fun document read =>
    (shown document read).mono (Nat.le_succ _)
  exact pageJson_writable (readFrom_writable (resources_readFrom good) (response_writable written))
    (link_plain good written)

/-- What a call comes to can be written if all that it is made of can be shown. -/
theorem yields_writable {room : Room} {result : Except Failure Document} {value : Document}
    (yields : call.Yields world responses result) (good : result = .ok value)
    (fits : ∀ response ∈ responses, room.Fits response) (held : call.HoldsFit room world) :
    value.IsWritable (room.levels 200) := by
  obtain ⟨inner, levels⟩ := room_inner room 200
  have paged {response : Response} {page : Page Resource} (hr : response ∈ responses)
      (read : response.resources = .ok page) : (pageJson page).IsWritable (inner + 2) := by
    rw [← levels]
    exact page_shown (fits response hr) read
  have roomy {response : Response} (hr : response ∈ responses) :
      response.IsWritable (inner + 1) := by
    have shown := (fits response hr).shown
    rwa [levels] at shown
  have wide {response : Response} (hr : response ∈ responses) :
      response.IsWritable (inner + 2) := fun document read =>
    (roomy hr document read).mono (Nat.le_succ _)
  rw [levels]
  have whole (good : (itemsOf responses).map itemsJson = .ok value) :
      value.IsWritable (inner + 2) := by
    obtain ⟨items, read, rfl⟩ := map_ok good
    exact listMembers_writable
      (readFrom_writable (itemsOf_readFrom read) (received_written fun _ hr => wide hr))
  cases yields with
  | page =>
    obtain ⟨page, read, rfl⟩ := map_ok good
    exact paged List.mem_cons_self read
  | whole => exact whole good
  | held found =>
    cases good
    have shown := held _ found
    rw [levels] at shown
    exact listMembers_writable shown
  | walked absent => exact whole good
  | account => exact accountJson_writable (roomy List.mem_cons_self) good

/-! ## What calls hear -/

/-- Nothing is heard behind the first response of no use. -/
theorem hears_stumble {client : Client} {response : Response} {flaw : Flaw}
    (hears : call.Hears client world responses after)
    (first : call.stumble? responses = some (response, flaw)) :
    ∃ before, responses = before ++ [response] := by
  have walk {path : String} {start : World} {operation : ListOperation}
      (paged : call.bodyFlaw? = pageFlaw?)
      (heard : client.Hears operation path none none start responses after) :
      ∃ before, responses = before ++ [response] := by
    obtain ⟨before, last, rfl, pages⟩ := hears_pages heard
    have quiet : ∀ other ∈ before, (call.flaw? other).map (other, ·) = none := by
      intro other ho
      obtain ⟨page, good⟩ := pages other ho
      have reads := resources_settles paged other
      rw [stumble?_cons] at reads
      cases wrong : call.flaw? other with
      | none => rfl
      | some flaw =>
        rw [wrong] at reads
        cases good.symm.trans reads
    unfold Call.stumble? at first
    rw [List.findSome?_append, List.findSome?_eq_none_iff.mpr quiet] at first
    obtain ⟨other, hm, found⟩ := List.exists_of_findSome?_eq_some first
    obtain ⟨found, -, same⟩ := Option.map_eq_some_iff.mp found
    cases same
    rw [List.mem_singleton.mp hm]
    exact ⟨before, rfl⟩
  have single {other : Response} (heard : responses = [other]) :
      ∃ before, responses = before ++ [response] := by
    obtain ⟨found, hm, same⟩ := List.exists_of_findSome?_eq_some first
    obtain ⟨found, -, same⟩ := Option.map_eq_some_iff.mp same
    cases same
    rw [heard] at hm
    rw [List.mem_singleton.mp hm]
    exact ⟨[], heard⟩
  cases hears with
  | page asked => exact single rfl
  | whole heard => exact walk rfl heard
  | held found => cases first
  | walked absent heard => exact walk rfl heard
  | account asked => exact single rfl

/-- One request is sent for each response that is heard. -/
theorem hears_asked {client : Client} (hears : call.Hears client world responses after) :
    ∃ requests : List Http.Request, requests.length = responses.length ∧
      after.deeds = world.deeds ++ requests.map .asked := by
  have first : (none : Option Wide) ≠ some (.plain "") := nofun
  cases hears with
  | @page _ _ _ token _ _ _ asked =>
    obtain ⟨⟨request, deeds⟩, -⟩ := askPage_answered asked (pageLink_ne token)
    exact ⟨[request], rfl, deeds⟩
  | whole heard => exact hears_deeds heard first
  | held found => exact ⟨[], rfl, by simp⟩
  | walked absent heard =>
    obtain ⟨requests, count, deeds⟩ := hears_deeds heard first
    exact ⟨requests, count, deeds⟩
  | @account path _ _ _ asked =>
    have turn := send_turn client "GET" path [] .null [] world
    rw [asked] at turn
    obtain ⟨⟨request, deeds⟩, -⟩ := turn_answered turn
    exact ⟨[request], rfl, deeds⟩

/-! ## Answers -/

def faultAnswer (status : Int) (body : Document) : Answer :=
  ⟨502, .json (.obj [
    ("ok", .bool false),
    ("error", .str "upstream_fault"),
    ("upstream_status", .int status),
    ("upstream_body", body)]), none, none, none⟩

/-- The answer that says why a response of the service is of no use. -/
def malformedAnswer (status : Int) (detail : String) : Answer :=
  ⟨502, .json (.obj [
    ("ok", .bool false),
    ("error", .str "malformed_upstream_response"),
    ("upstream_status", .int status),
    ("detail", .str detail)]), none, none, none⟩

theorem faultAnswer_inj {status status' : Int} {body body' : Document} :
    faultAnswer status body = faultAnswer status' body' ↔ status = status' ∧ body = body' := by
  simp [faultAnswer]

theorem malformedAnswer_inj {status status' : Int} {detail detail' : String} :
    malformedAnswer status detail = malformedAnswer status' detail' ↔
      status = status' ∧ detail = detail' := by
  simp [malformedAnswer]

theorem broken_inj {failure failure' : Failure} :
    Answer.broken failure = .broken failure' ↔ failure = failure' := by
  simp [Answer.broken]

theorem faultJson_writable {levels : Nat} {fault : Fault} (written : fault.body.IsWritable levels) :
    (faultJson fault).IsWritable (levels + 1) := by
  simp [faultJson, Wide.isPlain, written]

theorem settle_spoken {room : Room} {response : Response} {body : Document}
    (written : (faultJson (response.faultOf body)).IsWritable (room.levels 502)) :
    settle room (.error ((Flaw.refused body).failure response)) =
      faultAnswer response.status body := ofJson_written written

theorem settle_refused {room : Room} {response : Response} {body : Document}
    (fits : room.Fits response) (said : response.refusal = .ok body) :
    settle room (.error ((Flaw.refused body).failure response)) =
      faultAnswer response.status body := by
  obtain ⟨inner, levels⟩ := room_inner room 502
  refine settle_spoken ?_
  have passed := fits.passed
  rw [levels] at passed ⊢
  exact faultJson_writable (refusal_writable passed fits.spoken said)

theorem settle_undecodable {room : Room} {response : Response} {reason : Undecodable}
    {text : Wide} (spoken : response.text = .ok text) :
    settle room (.error ((Flaw.undecodable reason).failure response)) =
      malformedAnswer response.status reason.message := by
  unfold settle Flaw.failure Response.malformed
  rw [spoken]
  exact ofJson_ample (by simp [Wide.isPlain])

theorem unread_broken {room : Room} {response : Response} {failure : Failure}
    (unread : response.Unread failure) : ofFailure room failure = (none, .broken failure) := by
  cases unread <;> rfl

theorem settle_unread {room : Room} {response : Response} {failure : Failure}
    (unread : response.Unread failure) :
    settle room (.error ((Flaw.unread failure).failure response)) = .broken failure :=
  congrArg Prod.snd (unread_broken unread)

/-- The first response of no use is one of those that are heard, and it has that flaw. -/
theorem stumble?_flaw {response : Response} {flaw : Flaw}
    (first : call.stumble? responses = some (response, flaw)) :
    response ∈ responses ∧ call.flaw? response = some flaw := by
  obtain ⟨other, member, found⟩ := List.exists_of_findSome?_eq_some first
  obtain ⟨flaw, wrong, same⟩ := Option.map_eq_some_iff.mp found
  cases same
  exact ⟨member, wrong⟩

inductive Flaw.Tells (response : Response) : Flaw → Prop
  | refused {body : Document} (outside : response.status ≠ 200)
      (said : response.refusal = .ok body) : Flaw.Tells response (.refused body)
  | undecodable {reason : Undecodable} {text : Wide} (inside : response.status = 200)
      (spoken : response.text = .ok text) : Flaw.Tells response (.undecodable reason)
  | unread {failure : Failure} (unread : response.Unread failure) :
      Flaw.Tells response (.unread failure)

theorem refusalFlaw_tells {response : Response} (outside : response.status ≠ 200) :
    (refusalFlaw response).Tells response := by
  unfold refusalFlaw
  rcases Response.refusal_ends response with ⟨body, said⟩ | ⟨failure, unread, lost⟩
  · rw [said]
    exact .refused outside said
  · rw [lost]
    exact .unread unread

theorem bodyFlaw_tells {response : Response} (inside : response.status = 200)
    (reason : Undecodable) : (bodyFlaw response reason).Tells response := by
  unfold bodyFlaw
  cases spoken : response.text with
  | ok text => exact .undecodable inside spoken
  | error fault => exact .unread (.codec spoken)

theorem documentFlaw_tells {α : Type} {check : Schema.Check α Wide}
    {reason : List Schema.Issue → Undecodable} {response : Response} {flaw : Flaw}
    (inside : response.status = 200) (wrong : documentFlaw? check reason response = some flaw) :
    flaw.Tells response := by
  unfold documentFlaw? at wrong
  split at wrong
  · cases wrong
    exact bodyFlaw_tells inside _
  · rename_i deep
    cases wrong
    exact .unread (.nested deep)
  · split at wrong
    · cases wrong
    · cases wrong
      exact bodyFlaw_tells inside _

/-- Only a body behind a status that means success is looked at. -/
theorem stumble?_tells {response : Response} {flaw : Flaw}
    (first : call.stumble? responses = some (response, flaw)) : flaw.Tells response := by
  have wrong := (stumble?_flaw first).2
  unfold Call.flaw? at wrong
  split at wrong
  · rename_i outside
    cases wrong
    exact refusalFlaw_tells outside
  · rename_i success
    have inside := not_not.mp success
    unfold Call.bodyFlaw? at wrong
    split at wrong
    · unfold accountFlaw? at wrong
      split at wrong
      · cases wrong
      · exact documentFlaw_tells inside wrong
    · exact documentFlaw_tells inside wrong

/-- What a call leaves of the cache that stores nothing in it: all of it, or all but the list
that it looked for, if that was too old. -/
inductive Call.Keeps (world : World) : Call → ListCache (List Resource) → Prop
  | same {call : Call} : Call.Keeps world call world.lists
  | dropped {path : String} {sub : Option String} {entry : CacheEntry (List Resource)}
      (found : world.lists.find? (listKey sub none) = some entry)
      (old : ¬ListCache.Fresh world.lists.ttl world.clock entry.storedAt) :
      Call.Keeps world (.cached path sub false) (world.lists.erase (listKey sub none))

theorem looked_keeps (call : Call) (world : World) : call.Keeps world (call.looked world) := by
  cases call with
  | cached path sub refreshed =>
    cases refreshed with
    | true => exact .same
    | false =>
      unfold Call.looked
      dsimp only
      cases found : world.lists.find? (listKey sub none) with
      | none =>
        rw [ListCache.get_absent found]
        exact .same
      | some entry =>
        cases old : world.lists.isExpired world.clock entry with
        | false =>
          rw [ListCache.get_present found old]
          exact .same
        | true =>
          rw [ListCache.get_expired found old]
          refine .dropped found fun fresh => ?_
          rw [(ListCache.isExpired_fresh _ _ _).mpr fresh] at old
          cases old
  | _ => exact .same

/-- How a call turns out that hears some responses, the last of them in a world after. -/
structure Call.TurnsOut (call : Call) (world : World) (responses : List Response) (after : World)
    (answered : Answer) (final : World) : Prop where
  /-- The answer passes a refusal on if the first response of no use is one. -/
  refused : ∀ status body, answered = faultAnswer status body ↔
    ∃ response, call.stumble? responses = some (response, .refused body) ∧
      response.status = status ∧ response.refusal = .ok body
  /-- The answer says why a body is of no use if the first response of no use has one. -/
  undecodable : ∀ status detail, answered = malformedAnswer status detail ↔
    ∃ response reason, call.stumble? responses = some (response, .undecodable reason) ∧
      status = 200 ∧ reason.message = detail
  /-- The answer breaks off if the first response of no use cannot be read. -/
  unread : ∀ failure, answered = .broken failure ↔
    ∃ response, call.stumble? responses = some (response, .unread failure) ∧
      response.Unread failure
  /-- The answer is what the call is for if all responses are of use. -/
  fine : answered.status = 200 ↔ call.stumble? responses = none
  /-- The first response of no use is the last one that is heard. -/
  last : ∀ response flaw, call.stumble? responses = some (response, flaw) →
    ∃ before, responses = before ++ [response]
  /-- One request is sent for each response that is heard. -/
  asked : ∃ requests : List Http.Request, requests.length = responses.length ∧
    after.deeds = world.deeds ++ requests.map .asked
  /-- No request is sent, not even for a token, when the last response has been heard. -/
  silent : final.requests = after.requests
  /-- A call that fails stores nothing. -/
  kept : call.stumble? responses ≠ none → call.Keeps world final.lists

/-- Whatever a call is for, the first response of no use settles the answer, nothing is asked
for behind it, and nothing is stored, if what the responses hold can be shown. -/
theorem answer_turnsOut {hub : Hub} {request : Request} {call : Call} {world after : World}
    {responses : List Response} (leads : hub.Leads request call)
    (hears : call.Hears hub.client world responses after)
    (fits : ∀ response ∈ responses, hub.room.Fits response)
    (held : call.HoldsFit hub.room world) :
    call.TurnsOut world responses after (answer hub request world).1
      (answer hub request world).2 := by
  obtain ⟨result, yields, answered, quiet, stored⟩ := answer_ends leads hears
  have settles := yields_settles yields
  have whole : ∀ response flaw, call.stumble? responses = some (response, flaw) →
      ∃ before, responses = before ++ [response] := fun response flaw => hears_stumble hears
  have asked := hears_asked hears
  have silent := quiet.requests
  rw [answered]
  cases first : call.stumble? responses with
  | none =>
    rw [first] at settles
    obtain ⟨value, good⟩ : ∃ value, result = .ok value := settles
    have written : settle hub.room result = ⟨200, .json value, none, none, none⟩ := by
      rw [good]
      exact ofJson_written (yields_writable yields good fits held)
    rw [written]
    refine ⟨?_, ?_, ?_, ?_, whole, asked, silent, fun stumbles => absurd first stumbles⟩
    · simp [faultAnswer, first]
    · simp [malformedAnswer, first]
    · simp [Answer.broken, first]
    · simp [first]
  | some stumbled =>
    obtain ⟨response, flaw⟩ := stumbled
    rw [first] at settles
    have failed : result = .error (flaw.failure response) := settles
    have kept := looked_keeps call world
    rw [← stored ⟨_, failed⟩] at kept
    have member := (stumble?_flaw first).1
    have tells := stumble?_tells first
    rw [failed]
    cases tells with
    | @refused body outside said =>
      rw [settle_refused (fits response member) said]
      refine ⟨?_, ?_, ?_, ?_, whole, asked, silent, fun _ => kept⟩
      · intro status other
        rw [faultAnswer_inj]
        constructor
        · rintro ⟨rfl, rfl⟩
          exact ⟨response, first, rfl, said⟩
        · rintro ⟨other, same, rfl, -⟩
          cases first.symm.trans same
          exact ⟨rfl, rfl⟩
      · simp [faultAnswer, malformedAnswer, first]
      · simp [faultAnswer, Answer.broken, first]
      · simp [faultAnswer, first]
    | undecodable inside spoken =>
      rw [settle_undecodable spoken, inside]
      refine ⟨?_, ?_, ?_, ?_, whole, asked, silent, fun _ => kept⟩
      · simp [faultAnswer, malformedAnswer, first]
      · intro status detail
        rw [malformedAnswer_inj]
        constructor
        · rintro ⟨rfl, rfl⟩
          exact ⟨response, _, first, rfl, rfl⟩
        · rintro ⟨other, reason, same, rfl, rfl⟩
          cases first.symm.trans same
          exact ⟨rfl, rfl⟩
      · simp [malformedAnswer, Answer.broken, first]
      · simp [malformedAnswer, first]
    | @unread failure unread =>
      rw [settle_unread unread]
      refine ⟨?_, ?_, ?_, ?_, whole, asked, silent, fun _ => kept⟩
      · simp [faultAnswer, Answer.broken, first]
      · simp [malformedAnswer, Answer.broken, first]
      · intro other
        rw [broken_inj]
        constructor
        · rintro rfl
          exact ⟨response, first, unread⟩
        · rintro ⟨other, same, -⟩
          cases first.symm.trans same
          rfl
      · simp [Answer.broken, first]

/-- A request for the accounts of a subscription, to which the service responds with a refusal. -/
theorem refusal_heard {reply : Response} (outside : reply.status ≠ 200)
    (stays : reply.redirects = false) :
    ∃ path asked after,
      Hub.standard.Leads ⟨"GET", "/subscriptions/s/accounts:cached", none⟩
        (.cached path (some "s") false) ∧
      Call.Hears Hub.standard.client (.cached path (some "s") false)
        (World.fresh [.response reply] (.finite 1) none)
        [{ reply with request := some asked }] after := by
  obtain ⟨path, asked, after, placed, hears, -⟩ := standard_hears
    (show (World.fresh [.response reply] (.finite 1) none).replies = [.response reply] from rfl)
    stays fun page good => absurd (resources_ok.mp good).1 outside
  exact ⟨path, asked, after, standard_leads placed, .walked (.inr rfl) hears⟩

/-- A list that the service does not know of, and says so in a text of Latin-1. -/
theorem answer_turnsOut_refused :
    ∃ reply : Response, reply = ⟨404, [], [0xE9], none, some Text.Codec.latin1, 100⟩ ∧
      (answer .standard ⟨"GET", "/subscriptions/s/accounts:cached", none⟩
        (World.fresh [.response reply] (.finite 1) none)).1 =
          faultAnswer 404 (.str (.plain (String.ofList [Char.ofNat 0xE9]))) := by
  let reply : Response := ⟨404, [], [0xE9], none, some Text.Codec.latin1, 100⟩
  obtain ⟨path, asked, after, leads, heard⟩ := refusal_heard (show reply.status ≠ 200 by decide) rfl
  let response : Response := { reply with request := some asked }
  have spoken : response.text = .ok (.plain (String.ofList [Char.ofNat 0xE9])) := by
    show reply.text = _
    decide +kernel
  obtain ⟨e, unread⟩ : ∃ e, Json.ofBytes response.levels response.body = .error (.unreadable e) :=
    ⟨_, rfl⟩
  have said : response.refusal = .ok (.str (.plain (String.ofList [Char.ofNat 0xE9]))) := by
    rw [Response.refusal_full spoken (by decide +kernel), unread]
  have fits : ∀ other ∈ [response], Hub.standard.room.Fits other := by
    refine List.forall_mem_singleton.mpr (fits_shallow (fun text same => ?_) ?_)
    · cases spoken.symm.trans same
      rfl
    · rw [unread]
      rfl
  have turned := answer_turnsOut leads heard fits nofun
  refine ⟨reply, rfl, (turned.refused 404 _).mpr ⟨response, ?_, rfl, said⟩⟩
  have outside : response.status ≠ 200 := show (404 : Int) ≠ 200 by decide
  rw [stumble?_cons]
  unfold Call.flaw? refusalFlaw
  rw [if_pos outside, said]

/-- A page whose request fails is answered as this failure is. -/
theorem answer_unasked {hub : Hub} {request : Request} {path : String}
    {operation : ListOperation} {identity : Identity} {query : Option QueryOptions}
    {failure : Failure} (lists : hub.Lists request path none operation identity query)
    (failed : ((hub.client.send operation.method path (queryParams query) .null []).run
      world).1 = .error failure) :
    (answer hub request world).1 = (ofFailure hub.room failure).2 := by
  have admitted : Admits hub.client none := nofun
  have asked : (hub.client.askPage operation path query none).run world =
      (.error failure, ((hub.client.askPage operation path query none).run world).2) :=
    Prod.ext failed rfl
  have ran := onePage_admitted admitted
    ⟨hub.client.fetchPage operation path (queryParams query), none⟩ world
  dsimp only at ran
  rw [show pageLink none = none from rfl, fetchPage_ask, Action.run_bind_error asked] at ran
  rw [answer_lists lists]
  exact (complete_error ran).1

/-- A response that sends the caller on to no place is not handed on, and its status is
lost. -/
theorem answer_lost :
    ∃ reply : Response, reply.status = 302 ∧ reply.body = [] ∧
      (answer .standard ⟨"GET", "/subscriptions/s/accounts", none⟩
        (World.fresh [.response reply] (.finite 1) none)).1.status = 500 := by
  let reply : Response := ⟨302, [("Location", "http://a:x/")], [], none, none, 100⟩
  obtain ⟨path, placed⟩ : ∃ path, (Client.ofSettings .standard).operationPath Path.accounts
      (some (identityOf [("subscription_id", "s")])) none [] = .ok path := ⟨_, rfl⟩
  have lists : Hub.Lists .standard
      ⟨"GET", "/subscriptions/s/accounts", none⟩ path none .accounts
      (identityOf [("subscription_id", "s")])
      (givenOptions ⟨none, none, none, none, none, none⟩) :=
    .accounts (by decide +kernel) rfl placed rfl
  have reaches := standard_place (by decide) (by decide) placed (by decide +kernel)
  have nowhere : (Url.parse "http://a:x/").toOption = none := by decide +kernel
  cases read : Url.parse "http://a:x/" with
  | ok place =>
    rw [read] at nowhere
    cases nowhere
  | error fault =>
    have value : Client.bodyOf .null = .ok .none := rfl
    have queue : (World.fresh [.response reply] (.finite 1) none).replies = [.response reply] := rfl
    have failed := send_lost reaches standard_open value "GET" [] queue (by decide +kernel)
      (show reply.headers.get? "Location" = some "http://a:x/" by decide +kernel) read
    refine ⟨reply, rfl, rfl, ?_⟩
    rw [answer_unasked lists failed]
    rfl

/-- A list that is too old is dropped by a call that fails. -/
theorem answer_dropped :
    ∃ (world : World) (reply : Response) (entry : CacheEntry (List Resource)),
      world.replies = [.response reply] ∧ reply.status = 404 ∧
      world.lists.find? (listKey (some "s") none) = some entry ∧
      (answer .standard
        ⟨"GET", "/subscriptions/s/accounts:cached", none⟩ world).1.status = 502 ∧
      (answer .standard
        ⟨"GET", "/subscriptions/s/accounts:cached", none⟩ world).2.lists.find?
          (listKey (some "s") none) = none := by
  let listed : Response := ⟨200, [], Text.Utf8.encode "\x7b\"value\":[]\x7d", none, none, 100⟩
  let reply : Response := .bare 404
  let start := World.fresh [.response listed, .response reply] (.finite 1) (some (.finite 5))
  -- The list is got from the service and stored.
  obtain ⟨page, good, ends⟩ := only_page
    (show listed.resources.toOption.map Page.continuation = some none by decide +kernel)
  obtain ⟨path, final, placed, ran, left, lists⟩ := standard_stored
    (show start.replies = .response listed :: [.response reply] from rfl) good ends
  have clock : final.clock = .finite 1 := by
    have stored := refresh_refreshed (Client.ofSettings .standard) (some "s") none start
    rw [ran] at stored
    cases stored with
    | stored later =>
      unfold World.clock
      rw [later.time]
      rfl
  rw [clock] at lists
  -- It is too old when it is asked for again, and the service does not know of it.
  let world : World := { final with time := fun _ => .finite 7 }
  let entry : CacheEntry (List Resource) := ⟨listKey (some "s") none, some page.items, .finite 1⟩
  have found : world.lists.find? (listKey (some "s") none) = some entry := by
    show final.lists.find? _ = _
    rw [lists]
    rfl
  have old : world.lists.isExpired world.clock entry = true := by
    have late : Binary64.lt (.finite 5) (.finite 7 - .finite 1) = true := by decide +kernel
    show final.lists.isExpired _ _ = _
    rw [lists]
    exact late
  have dropped := ListCache.get_expired found old
  obtain ⟨_, request, after, place, refused, -⟩ := standard_hears
    (show { world with lists := Call.looked world (.cached path (some "s") false) }.replies =
      .response reply :: [] from left) rfl
    fun other read => absurd (resources_ok.mp read).1 (by decide)
  cases place.symm.trans placed
  have absent : heldList world (some "s") = none := congrArg Prod.fst dropped
  obtain ⟨result, yields, answered, -, stored⟩ :=
    answer_ends (standard_leads placed) (.walked (.inr absent) refused)
  let response : Response := { reply with request := some request }
  have said : response.refusal = .ok (.str "") := rfl
  have failed : result = .error ((Flaw.refused (.str "")).failure response) := yields_settles yields
  refine ⟨world, reply, entry, left, rfl, found, ?_, ?_⟩
  · rw [answered, failed]
    rfl
  · rw [stored ⟨_, failed⟩]
    show (world.lists.get world.clock (listKey (some "s") none)).2.find? _ = none
    rw [dropped]
    exact ListCache.find?_erase_self _ _

/-- A refusal is answered as the failure that it is. -/
theorem answer_refusal {reply : Response} (outside : reply.status ≠ 200)
    (stays : reply.redirects = false) :
    ∃ asked, (answer .standard ⟨"GET", "/subscriptions/s/accounts:cached", none⟩
      (World.fresh [.response reply] (.finite 1) none)).1 =
        (ofFailure Hub.standard.room
          (Response.refused { reply with request := some asked })).2 := by
  obtain ⟨path, asked, after, leads, heard⟩ := refusal_heard outside stays
  obtain ⟨result, yields, answered, -⟩ := answer_ends leads heard
  have settles := yields_settles yields
  rw [stumble?_cons] at settles
  unfold Call.flaw? at settles
  rw [if_pos outside] at settles
  have failed : result = .error ((refusalFlaw _).failure _) := settles
  rw [answered, failed, refusalFlaw_failure]
  exact ⟨asked, rfl⟩

theorem answer_unread {reply : Response} {failure : Failure} (outside : reply.status ≠ 200)
    (stays : reply.redirects = false) (lost : reply.refusal = .error failure) :
    (answer .standard ⟨"GET", "/subscriptions/s/accounts:cached", none⟩
      (World.fresh [.response reply] (.finite 1) none)).1 = .broken failure := by
  obtain ⟨asked, answered⟩ := answer_refusal outside stays
  rcases Response.refusal_ends reply with ⟨body, said⟩ | ⟨other, unread, same⟩
  · cases lost.symm.trans said
  · cases lost.symm.trans same
    have refused : Response.refused { reply with request := some asked } = failure :=
      Response.refused_error same
    rw [answered, refused, unread_broken unread]

theorem answer_unwritten {reply : Response} {body : Document} {failure : Failure}
    (outside : reply.status ≠ 200) (stays : reply.redirects = false)
    (said : reply.refusal = .ok body)
    (blocked : Answer.obstacle? 900 (faultJson ⟨reply.status, body, none, none⟩) =
      some failure) :
    (answer .standard ⟨"GET", "/subscriptions/s/accounts:cached", none⟩
      (World.fresh [.response reply] (.finite 1) none)).1 = .broken failure := by
  obtain ⟨asked, answered⟩ := answer_refusal outside stays
  have refused : Response.refused { reply with request := some asked } =
      .fault (Response.faultOf { reply with request := some asked } body) :=
    Response.refused_ok said
  rw [answered, refused]
  exact ofJson_blocked blocked

/-- Refusals that break the answer off: one says half a pair, the text of one cannot be read, and
one is nested too deep to be read. -/
theorem answer_cut_off : ∃ ragged lost deep : Response,
    ragged = ⟨404, [], Text.Utf8.encode "\x7b\"x\":\"\\ud800\"\x7d", none, none, 100⟩ ∧
      lost = ⟨404, [], [0x5B], none, some Text.Codec.undefined, 100⟩ ∧
      deep = ⟨404, [], [0x5B, 0x5B], none, none, 1⟩ ∧
      ∀ reply ∈ [ragged, lost, deep],
        (answer .standard ⟨"GET", "/subscriptions/s/accounts:cached", none⟩
          (World.fresh [.response reply] (.finite 1) none)).1.status = 500 := by
  refine ⟨_, _, _, rfl, rfl, rfl, ?_⟩
  simp only [List.forall_mem_cons, List.not_mem_nil, false_imp_iff, implies_true, and_true]
  refine ⟨?_, ?_, ?_⟩
  · let half : Wide := .ragged ⟨[.lone 0], rfl⟩
    have said : Response.refusal ⟨404, [], Text.Utf8.encode "\x7b\"x\":\"\\ud800\"\x7d", none, none,
        100⟩ = .ok (.obj [("x", .str half)]) := by
      have held : Json.HeldIn 100 .utf8 (Text.Utf8.encode "\x7b\"x\":\"\\ud800\"\x7d")
          (.obj [("x", .str half)]) :=
        ⟨[], _, "\x7b\"x\":\"\\ud800\"\x7d".toList.map .char, .inl rfl, rfl, by decide +kernel, rfl⟩
      have spoken : Response.text ⟨404, [], Text.Utf8.encode "\x7b\"x\":\"\\ud800\"\x7d", none, none,
        100⟩ = .ok (.plain "\x7b\"x\":\"\\ud800\"\x7d") := by decide +kernel
      rw [Response.refusal_full spoken (by decide +kernel), Json.ofBytes_iff.mpr ⟨_, held⟩]
    have blocked : Answer.obstacle? 900 (faultJson ⟨404, .obj [("x", .str half)], none, none⟩) =
        some .notUnicode := rfl
    rw [answer_unwritten (by decide) rfl said blocked]
    rfl
  · rw [answer_unread (by decide) rfl (Response.refusal_unspoken rfl)]
    rfl
  · have lost : Response.refusal ⟨404, [], [0x5B, 0x5B], none, none, 1⟩ = .error (.nested true) := by
      have spoken : Response.text ⟨404, [], [0x5B, 0x5B], none, none, 1⟩ = .ok (.plain "[[") := by
        decide +kernel
      rw [Response.refusal_full spoken (by decide +kernel)]
      rfl
    rw [answer_unread (by decide) rfl lost]
    rfl

/-- The status of a failing response is not always passed on, neither when it sends the caller on
to no place nor when the answer breaks off, and a call that fails may leave less in the cache than
there was. -/
theorem answer_unsettled :
    (∃ reply : Response, reply.status = 302 ∧ reply.body = [] ∧
      (answer .standard ⟨"GET", "/subscriptions/s/accounts", none⟩
        (World.fresh [.response reply] (.finite 1) none)).1.status = 500) ∧
    (∃ (world : World) (reply : Response) (entry : CacheEntry (List Resource)),
      world.replies = [.response reply] ∧ reply.status = 404 ∧
      world.lists.find? (listKey (some "s") none) = some entry ∧
      (answer .standard
        ⟨"GET", "/subscriptions/s/accounts:cached", none⟩ world).1.status = 502 ∧
      (answer .standard
        ⟨"GET", "/subscriptions/s/accounts:cached", none⟩ world).2.lists.find?
          (listKey (some "s") none) = none) ∧
    ∃ ragged lost deep : Response,
      ragged = ⟨404, [], Text.Utf8.encode "\x7b\"x\":\"\\ud800\"\x7d", none, none, 100⟩ ∧
        lost = ⟨404, [], [0x5B], none, some Text.Codec.undefined, 100⟩ ∧
        deep = ⟨404, [], [0x5B, 0x5B], none, none, 1⟩ ∧
        ∀ reply ∈ [ragged, lost, deep],
          (answer .standard ⟨"GET", "/subscriptions/s/accounts:cached", none⟩
            (World.fresh [.response reply] (.finite 1) none)).1.status = 500 :=
  ⟨answer_lost, answer_dropped, answer_cut_off⟩

end LakeAdmin.Gateway
