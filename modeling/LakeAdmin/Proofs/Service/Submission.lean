import LakeAdmin.Proofs.Model.Passing
import LakeAdmin.Proofs.Service.Arguments

/-!
Operations that send a body. Either the arguments are refused with a reason before anything is
sent, or the one request that changes anything carries the body that the parameters make up, and
all that follows are reads.
-/

namespace LakeAdmin

open Http Http.Action LakeAdmin.Path Schema

variable {α β : Type} {client : Client}

/-! ## Reads -/

/-- A wait, or a request that changes nothing. -/
def Http.Deed.IsRead : Deed → Prop
  | .asked request => request.method = "GET" ∧ request.body = .none
  | .slept _ => True

/-- An action that does nothing but read. -/
def Http.Action.Reads (x : Action α) : Prop :=
  ∀ world, ∃ deeds, (x.run world).2.deeds = world.deeds ++ deeds ∧ ∀ deed ∈ deeds, deed.IsRead

theorem reads_unchanged {x : Action α} (h : ∀ world, (x.run world).2.deeds = world.deeds) :
    x.Reads := fun world => ⟨[], by simp [h world], nofun⟩

theorem reads_bind {x : Action α} {f : α → Action β} (hx : x.Reads) (hf : ∀ a, (f a).Reads) :
    (x >>= f).Reads := by
  intro world
  obtain ⟨first, done, reads⟩ := hx world
  rw [run_bind]
  rcases hr : x.run world with ⟨failure | a, after⟩
  · rw [hr] at done
    exact ⟨first, done, reads⟩
  · rw [hr] at done
    obtain ⟨rest, later, reads'⟩ := hf a after
    refine ⟨first ++ rest, by simp only [later, done, List.append_assoc], ?_⟩
    exact fun deed hd => (List.mem_append.mp hd).elim (reads deed) (reads' deed)

theorem reads_turn {fetch : Action Response} {reference : String}
    {params : Option (List (String × String))}
    (turn : ∀ world, client.Turn "GET" reference params .null world (fetch.run world).1
      (fetch.run world).2) : fetch.Reads := by
  intro world
  have turned := turn world
  generalize (fetch.run world).1 = result at turned
  cases turned with
  | unsent why deeds left => exact ⟨[], by simp [deeds], nofun⟩
  | @sent request left _ asks leaves deeds replies =>
    refine ⟨[.asked request], deeds, ?_⟩
    rw [List.forall_mem_singleton]
    exact ⟨asks.method_eq, Except.ok.inj asks.body_eq.symm⟩

/-- Waiting for an operation reads, and does nothing else. -/
theorem reads_habit (client : Client) : client.Habit fun _ => Action.Reads where
  returns _ := reads_unchanged fun _ => rfl
  fails _ := reads_unchanged fun _ => rfl
  bind := reads_bind
  notes _ := reads_unchanged fun world => deeds_noted world _
  sleeps _ := fun world => ⟨_, deeds_slept world _, by simp [Deed.IsRead]⟩
  reads path := reads_turn (send_turn client "GET" path [] .null [])
  follows filled := reads_turn (fetchNext_turn client filled)

/-! ## Complaints with a reason -/

/-- A failure that says what is wrong with the arguments if it complains about them. -/
def Failure.isReasoned : Failure → Bool
  | invalidArgument problems => !problems.isEmpty
  | _ => true

theorem reasoned_of_blameless {failure : Failure} (h : failure.isBlameless = true) :
    failure.isReasoned = true := by
  cases failure <;> first | rfl | cases h

theorem validate_reasoned (kind : BodyKind) (name : String) (parameters : Parameters) :
    LakeAdmin.FailsAs Failure.isReasoned (kind.validate name parameters) := by
  have reasoned := ofParameters_reasons kind parameters
  unfold BodyKind.validate
  split
  · exact failsAs_error rfl
  · split
    · exact failsAs_ok _
    · rename_i issues refused
      refine failsAs_error ?_
      rw [refused] at reasoned
      cases issues with
      | nil => exact absurd rfl reasoned
      | cons issue rest => rfl

theorem body_reasoned (rule : BodyRule) (parameters : Parameters) :
    LakeAdmin.FailsAs Failure.isReasoned (rule.body parameters) := by
  have built (kind : BodyKind) (parameters : Parameters) :=
    failsAs_bind (validate_reasoned kind parametersName parameters) fun value =>
      failsAs_ok (Json.obj (kind.toBody value))
  unfold BodyRule.body
  split
  · exact failsAs_ok _
  · exact built _ _
  · exact built _ _
  · exact built _ _

theorem path_reasoned (segments : List Segment) (identity : Option Identity)
    (query : Option QueryOptions) (extra : Client.PathValues) :
    LakeAdmin.FailsAs Failure.isReasoned (client.operationPath segments identity query extra) := by
  unfold Client.operationPath Client.buildPath
  dsimp only
  split
  · split
    · exact failsAs_ok _
    · exact failsAs_error rfl
  · rename_i problems some
    refine failsAs_error ?_
    cases h : Client.pathProblems _ _ _ _ with
    | nil => exact absurd h some
    | cons problem rest => rfl

theorem send_reasoned {method path : String} {params : Members} {json : Json} {extra : Headers}
    {more : Response → Action α}
    (rest : client.apiVersion ≠ "" →
      ∀ response, Action.FailsAs Failure.isBlameless (more response)) :
    Action.FailsAs Failure.isReasoned (client.send method path params json extra >>= more) := by
  by_cases unversioned : client.apiVersion = ""
  · intro world
    rw [run_bind_error (send_unversioned unversioned _ _ _ _ _ _)]
    exact failsAs_error rfl
  · have sent := (send_transport unversioned method path params json extra).mono
      Failure.blameless_of_transport
    exact (failsAs_then sent (rest unversioned)).mono reasoned_of_blameless

/-- Behind two checks that give reasons, a request complains with a reason. -/
theorem submit_reasoned {method : String} {body : Except Failure Json}
    {place : Except Failure String} {behind : String → Response → Action α}
    (fits : LakeAdmin.FailsAs Failure.isReasoned body)
    (places : LakeAdmin.FailsAs Failure.isReasoned place)
    (rest : client.apiVersion ≠ "" →
      ∀ path response, Action.FailsAs Failure.isBlameless (behind path response)) :
    Action.FailsAs Failure.isReasoned (client.submit method body place behind) := by
  unfold Client.submit
  refine failsAs_then (failsAs_result fits) fun json => ?_
  refine failsAs_then (failsAs_result places) fun path => ?_
  exact send_reasoned fun versioned => rest versioned path

theorem call_reasoned (operation : CallOperation) (identity : Option Identity)
    (parameters : Parameters) (location : Option String) :
    Action.FailsAs Failure.isReasoned (client.call operation identity parameters location) := by
  rw [call_submit]
  exact submit_reasoned (body_reasoned _ _) (path_reasoned _ _ _ _) fun versioned _ response =>
    (blameless_habit versioned).answered (read_answered _ _ response)

theorem long_reasoned (operation : LongOperation) (identity : Option Identity)
    (parameters : Parameters) :
    Action.FailsAs Failure.isReasoned (client.runLong operation identity parameters) := by
  rw [runLong_submit]
  exact submit_reasoned (body_reasoned _ _) (path_reasoned _ _ _ _) fun versioned =>
    (blameless_habit versioned).settle operation

/-! ## One request, and reads behind it -/

/-- An action that goes on behind a turn with reads either has done nothing, and fails because
its request is not sent, or has sent the request of the turn and read. -/
theorem bind_sends {method reference : String} {params : Option (List (String × String))}
    {json : Json} {world : World} {fetch : Action Response} {more : Response → Action α}
    (turn : client.Turn method reference params json world (fetch.run world).1
      (fetch.run world).2)
    (reads : ∀ response, (more response).Reads) :
    (∃ failure, client.Unsent reference params json failure ∧
      ((fetch >>= more).run world).1 = .error failure ∧
      ((fetch >>= more).run world).2.deeds = world.deeds) ∨
    ∃ request rest, client.Asks method reference params json request ∧
      ((fetch >>= more).run world).2.deeds = world.deeds ++ .asked request :: rest ∧
      ∀ deed ∈ rest, deed.IsRead := by
  rw [run_bind]
  -- A turn that fails may have sent its request or not; one that is answered has sent it.
  rcases hf : fetch.run world with ⟨failure | response, ready⟩
  · rw [hf] at turn
    dsimp only at turn ⊢
    generalize same : Except.error failure = result at turn
    cases turn with
    | unsent why deeds left =>
      cases same
      exact .inl ⟨failure, why, rfl, deeds⟩
    | sent asks leaves deeds replies => exact .inr ⟨_, [], asks, deeds, nofun⟩
  · rw [hf] at turn
    obtain ⟨rest, later, behind⟩ := reads response ready
    dsimp only at turn ⊢
    generalize he : Except.ok response = result at turn
    cases turn with
    | unsent why deeds left => cases he
    | sent asks leaves deeds replies =>
      exact .inr ⟨_, rest, asks, by rw [later, deeds, List.append_assoc]; rfl, behind⟩

/-- Once its arguments are found to be right, a call sends one request, and reads the answer. -/
theorem call_sends (operation : CallOperation) {identity : Option Identity}
    {parameters : Parameters} {location : Option String} {json : Json} {path : String}
    (hb : operation.bodyRule.body parameters = .ok json)
    (hp : client.operationPath operation.path identity none
      (Operation.values location (.call operation)) = .ok path) (world : World) :
    ∃ more : Response → Action Answer,
      (client.call operation identity parameters location).run world =
        (client.send operation.method path [] json [] >>= more).run world ∧
      ∀ response, (more response).Reads :=
  ⟨_, call_run hb hp world, fun response =>
    (reads_habit client).answered (read_answered _ _ response)⟩

/-- An operation that is waited for does likewise. -/
theorem long_sends (operation : LongOperation) {identity : Option Identity}
    {parameters : Parameters} {json : Json} {path : String}
    (hb : operation.bodyRule.body parameters = .ok json)
    (hp : client.operationPath Path.account identity none [] = .ok path) (world : World) :
    ∃ more : Response → Action Answer,
      (client.runLong operation identity parameters).run world =
        (client.send operation.method path [] json [] >>= more).run world ∧
      ∀ response, (more response).Reads :=
  ⟨_, runLong_run hb hp world, (reads_habit client).settle operation path⟩

theorem bodyOf_obj {members : Members} {body : Body}
    (h : Client.bodyOf (.obj members) = .ok body) : body = .json (.obj members) := by
  unfold Client.bodyOf at h
  split at h
  · rename_i null
    cases null
  · split at h
    · cases h
      rfl
    · cases h

/-! ## What sending a body comes to -/

/-- What it comes to to send one body of some sort: the arguments are complained of, what is
wrong with them is named, and nothing has been done; or nothing is sent for another reason; or one
request carries such a body, and all that follows are reads. -/
inductive Submission (method : String) (fits : Json → Prop) (failure : Option Failure)
    (before after : World) : Prop
  | refused {problems : List Problem} (reason : problems ≠ [])
      (complains : failure = some (.invalidArgument problems)) (untouched : after = before)
  | unsent {other : Failure} (fails : failure = some other) (blameless : other.isBlameless = true)
      (unsent : after.deeds = before.deeds)
  | sent {request : Request} {body : Json} {rest : List Deed}
      (blameless : ∀ other ∈ failure, other.isBlameless = true)
      (deeds : after.deeds = before.deeds ++ .asked request :: rest)
      (method : request.method = method) (carries : request.body = .json body)
      (fits : fits body) (reads : ∀ deed ∈ rest, deed.IsRead)

theorem Submission.mono {method : String} {fits fits' : Json → Prop} {failure : Option Failure}
    {before after : World} (h : Submission method fits failure before after)
    (implies : ∀ body, fits body → fits' body) : Submission method fits' failure before after := by
  cases h with
  | refused reason complains untouched => exact .refused reason complains untouched
  | unsent fails blameless unsent => exact .unsent fails blameless unsent
  | sent blameless deeds method carries fits reads =>
    exact .sent blameless deeds method carries (implies _ fits) reads

theorem failure?_some {result : Except Failure α} {failure : Failure}
    (h : LakeAdmin.failure? result = some failure) : result = .error failure := by
  cases result with
  | ok a => cases h
  | error other =>
    cases h
    rfl

/-- Wrong arguments are refused with a reason, and nothing has been done. -/
theorem refused_run {action : Action α} {world : World} {wrong : Prop}
    (complains : Complains (failure? (action.run world).1) world (action.run world).2 wrong)
    (reasoned : Action.FailsAs Failure.isReasoned action) (h : wrong) :
    ∃ problems, problems ≠ [] ∧
      action.run world = (.error (.invalidArgument problems), world) := by
  obtain ⟨problems, failed⟩ := complains.iff_wrong.mpr h
  have refused := failure?_some failed
  refine ⟨problems, ?_, Prod.ext refused (complains.unchanged h)⟩
  -- With no problems named it would be a complaint without a reason.
  rintro rfl
  exact Bool.false_ne_true (reasoned world _ refused)

/-- An action submits a body if, once nothing is wrong with its arguments, it sends one and then
reads. -/
theorem submission_of_run (client : Client) {action : Action α} {world : World} {wrong : Prop}
    {method : String} {fits : Json → Prop}
    (complains : Complains (failure? (action.run world).1) world (action.run world).2 wrong)
    (reasoned : Action.FailsAs Failure.isReasoned action)
    (right : ¬wrong → ∃ (path : String) (members : Members) (more : Response → Action α),
      fits (.obj members) ∧
      action.run world = (client.send method path [] (.obj members) [] >>= more).run world ∧
      ∀ response, (more response).Reads) :
    Submission method fits (failure? (action.run world).1) world (action.run world).2 := by
  by_cases h : wrong
  · obtain ⟨problems, reason, run⟩ := refused_run complains reasoned h
    rw [run]
    exact .refused reason rfl rfl
  · have blameless : ∀ other ∈ failure? (action.run world).1, other.isBlameless = true := by
      intro other failed
      cases other with
      | invalidArgument problems => exact absurd (complains.iff_wrong.mp ⟨problems, failed⟩) h
      | _ => rfl
    obtain ⟨path, members, more, fits, same, reads⟩ := right h
    have turn := send_turn client method path [] (.obj members) [] world
    rw [same] at blameless ⊢
    rcases bind_sends turn reads with
      ⟨failure, -, failed, deeds⟩ | ⟨request, rest, asks, deeds, behind⟩
    · have found : failure? ((client.send method path [] (.obj members) [] >>= more).run world).1 =
          some failure := by rw [failed]; rfl
      exact .unsent found (blameless failure found) deeds
    · exact .sent blameless deeds asks.method_eq (bodyOf_obj asks.body_eq) fits behind

theorem body_obj {rule : BodyRule} (takes : rule ≠ .none) {parameters : Parameters} {json : Json}
    (h : rule.body parameters = .ok json) : ∃ members, json = .obj members := by
  have required (kind : BodyKind) {parameters : Parameters}
      (h : (BodyRule.required kind).body parameters = .ok json) :
      ∃ members, json = .obj members := by
    obtain ⟨value, -, same⟩ := required_body.mp h
    exact ⟨_, same⟩
  cases rule with
  | none => exact absurd rfl takes
  | required kind => exact required kind h
  | optional kind =>
    by_cases given : parameters = .plain .null
    · subst given
      have empty : (BodyRule.required kind).body (.plain (.obj [])) = .ok json := h
      exact required kind empty
    · rw [optional_body given] at h
      exact required kind h

/-- A call that takes a body submits the one that its parameters make up. -/
theorem call_submission (client : Client) (operation : CallOperation)
    (takes : operation.bodyRule ≠ .none) (identity : Option Identity) (parameters : Parameters)
    (location : Option String) (world : World) :
    Submission operation.method (fun body => operation.bodyRule.body parameters = .ok body)
      (failure? ((client.call operation identity parameters location).run world).1) world
      ((client.call operation identity parameters location).run world).2 := by
  refine submission_of_run client (call_complains operation identity none parameters location none
    world) (call_reasoned operation identity parameters location) fun right => ?_
  rw [rejected_iff, not_or, not_or, not_not] at right
  obtain ⟨fits, plain, -⟩ := right
  obtain ⟨json, hb⟩ := (body_checks (.call operation) parameters).passes (not_not_intro fits)
  obtain ⟨members, rfl⟩ := body_obj takes hb
  have named : ¬∃ name ∈ namesOf (Operation.call operation).path,
      ((Operation.call operation).given client identity location name).all Text.allBlank = true :=
    fun wrong => plain (.inl wrong)
  obtain ⟨path, hp⟩ := (path_checks client identity none location (.call operation)).passes
    (by simpa using named)
  obtain ⟨more, same, reads⟩ := call_sends operation hb hp world
  exact ⟨path, members, more, hb, same, reads⟩

end LakeAdmin
