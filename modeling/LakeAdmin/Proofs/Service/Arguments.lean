import LakeAdmin.Proofs.Client.Arguments
import LakeAdmin.Proofs.Service.Addressing

/-!
When an operation complains about its arguments: a name of its path has no value or a blank
one, an option is negative, the parameters do not fit, or the client has no version to name.
It does so before anything is done, and for no other reason: behind the first request of a
walk, or while an operation is waited for, nothing is left to complain of.
-/

namespace LakeAdmin

open Http Http.Action LakeAdmin.Path

variable {α β : Type} {client : Client}

/-! ## What is wrong -/

/-- The value that is given for a name in the path of an operation: one of its own, or one of
the identity, or for the subscription the one of the client if the identity has none. -/
def Operation.given (client : Client) (identity : Option Identity) (location : Option String)
    (operation : Operation) (name : String) : Option String :=
  match (operation.values location).lookup name with
  | some value => value
  | none =>
    let own := identity.bind (·.lookUp name)
    if name = IdentityField.subscription.name then own.or client.subscription else own

def Operation.bodyRule : Operation → BodyRule
  | list _ => .none
  | call operation => operation.bodyRule
  | long operation => operation.bodyRule

/-- Parameters are right: nobody looks at them, or they make up a value of the kind that is
asked for, or there are none and none are needed. -/
def BodyRule.Fits : BodyRule → Parameters → Prop
  | .none, _ => True
  | .required kind, parameters =>
    parameters ≠ .plain .null ∧ ∃ value, kind.ofParameters parameters = .valid value
  | .optional kind, parameters =>
    parameters = .plain .null ∨ ∃ value, kind.ofParameters parameters = .valid value

/-- An option that may not be negative is. -/
def QueryOptions.IsNegative (options : QueryOptions) : Prop :=
  (∃ n ∈ options.top, n < 0) ∨ ∃ n ∈ options.skip, n < 0

/-- Why the arguments of an operation are wrong. Options are those of a list. -/
inductive Operation.Rejected (client : Client) (identity : Option Identity)
    (query : Option QueryOptions) (parameters : Parameters) (location : Option String)
    (operation : Operation) : Prop
  | name {name : String} (needed : name ∈ namesOf operation.path)
      (missing : (operation.given client identity location name).all Text.allBlank = true)
  | options {kind : ListOperation} {options : QueryOptions} (lists : operation = .list kind)
      (given : query = some options) (negative : options.IsNegative)
  | parameters (unfit : ¬operation.bodyRule.Fits parameters)
  | version (unversioned : client.apiVersion = "")

/-! ## Checks -/

/-- A check that complains if something is wrong, and has a result otherwise. -/
structure Checks (check : Except Failure α) (wrong : Prop) : Prop where
  complains : wrong → ∃ problems, check = .error (.invalidArgument problems)
  passes : ¬wrong → ∃ a, check = .ok a

/-- The problems that a query has, if it is one of a list. -/
theorem problems_negative (options : QueryOptions) :
    options.problems = [] ↔ ¬options.IsNegative := by
  unfold QueryOptions.problems QueryOptions.IsNegative
  cases options.top <;> cases options.skip <;> simp

theorem validate_checks {kind : BodyKind} {parameters : Parameters} (name : String)
    (given : parameters ≠ .plain .null) :
    Checks (kind.validate name parameters)
      (¬∃ value, kind.ofParameters parameters = .valid value) := by
  unfold BodyKind.validate
  split
  · exact absurd rfl given
  · cases h : kind.ofParameters parameters with
    | valid value => exact ⟨fun wrong => absurd ⟨value, rfl⟩ wrong, fun _ => ⟨value, rfl⟩⟩
    | invalid issues => exact ⟨fun _ => ⟨_, rfl⟩, fun right => absurd (by simp) right⟩

theorem checks_map {check : Except Failure α} {wrong : Prop} (h : Checks check wrong)
    (f : α → β) : Checks (check >>= fun a => pure (f a)) wrong where
  complains hw := by
    obtain ⟨problems, he⟩ := h.complains hw
    exact ⟨problems, by rw [he]; rfl⟩
  passes hr := by
    obtain ⟨a, ha⟩ := h.passes hr
    exact ⟨f a, by rw [ha]; rfl⟩

/-- Kinds of parameters that may be left out are content with no members. -/
theorem optional_accepts {operation : Operation} {kind : BodyKind}
    (h : operation.bodyRule = .optional kind) : ∃ value, kind.check (.obj []) = .valid value := by
  cases operation with
  | list operation => cases h
  | call operation => cases operation <;> cases h <;> exact ⟨_, rfl⟩
  | long operation =>
    cases operation <;> cases h
    exact ⟨_, rfl⟩

/-- The body of an operation is refused if and only if its parameters do not fit. -/
theorem body_checks (operation : Operation) (parameters : Parameters) :
    Checks (operation.bodyRule.body parameters) (¬operation.bodyRule.Fits parameters) := by
  cases rule : operation.bodyRule with
  | none => exact ⟨fun wrong => absurd trivial wrong, fun _ => ⟨.null, rfl⟩⟩
  | required kind =>
    by_cases given : parameters = .plain .null
    · subst given
      exact ⟨fun _ => ⟨_, rfl⟩, fun right => absurd (fun fits => fits.1 rfl) right⟩
    · have checks := checks_map (validate_checks parametersName given)
        fun value : kind.Value => Json.obj (kind.toBody value)
      exact ⟨fun wrong => checks.complains fun fits => wrong ⟨given, fits⟩,
        fun right => checks.passes fun unfit => right fun fits => unfit fits.2⟩
  | optional kind =>
    by_cases given : parameters = .plain .null
    · subst given
      obtain ⟨value, passes⟩ := optional_accepts rule
      have empty : kind.ofParameters (.plain (.obj [])) = .valid value := passes
      have spelled : Parameters.plain (.obj []) ≠ .plain .null := by simp
      have checks := checks_map (validate_checks parametersName spelled)
        fun value : kind.Value => Json.obj (kind.toBody value)
      exact ⟨fun wrong => absurd (.inl rfl) wrong, fun _ => checks.passes (by simp [empty])⟩
    · have checks := checks_map (validate_checks parametersName given)
        fun value : kind.Value => Json.obj (kind.toBody value)
      have same : BodyRule.body (.optional kind) parameters =
          kind.validate parametersName parameters >>= fun value =>
            pure (.obj (kind.toBody value)) := by
        cases parameters with
        | checked model => rfl
        | plain value =>
          cases value with
          | null => exact absurd rfl given
          | _ => rfl
      rw [same]
      exact ⟨fun wrong => checks.complains fun fits => wrong (.inr fits),
        fun right => checks.passes fun unfit => right fun fits => unfit (fits.resolve_left given)⟩

/-! ## Names -/

theorem ofName_nil (name : String) (value : Option String) :
    Problem.ofName name value = [] ↔ ¬value.all Text.allBlank = true := by
  cases value with
  | none => simp [Problem.ofName]
  | some text => simp [Problem.ofName]

theorem field_of_name {name : String} {field : IdentityField}
    (h : IdentityField.ofName? name = some field) : field.name = name := by
  unfold IdentityField.ofName? at h
  simpa using List.find?_some h

/-- In the scope of a client only the subscription may have another value than the identity
gives it. -/
theorem scope_other (client : Client) (own : Identity) {name : String}
    (hn : name ≠ IdentityField.subscription.name) :
    (client.scope (some own)).lookUp name = own.lookUp name := by
  have other (subscription : Option String) :
      Identity.lookUp { own with subscription := subscription } name = own.lookUp name := by
    unfold Identity.lookUp
    cases hf : IdentityField.ofName? name with
    | none => rfl
    | some field =>
      cases field with
      | subscription => exact absurd (field_of_name hf).symm hn
      | _ => rfl
  unfold Client.scope
  dsimp only [Option.getD_some]
  split
  · split
    · rfl
    · exact other _
  · rfl

/-- The subscription in the scope of a client is blank if and only if it is where the one of
the client takes the place of none. -/
theorem scope_subscription (client : Client) (own : Identity) :
    ((client.scope (some own)).lookUp IdentityField.subscription.name).all Text.allBlank =
      (own.subscription.or client.subscription).all Text.allBlank := by
  have found (identity : Identity) :
      identity.lookUp IdentityField.subscription.name = identity.subscription := rfl
  rw [found]
  unfold Client.scope
  dsimp only [Option.getD_some]
  cases hs : own.subscription with
  | some text => simp [hs]
  | none =>
    cases client.subscription with
    | none => simp [hs]
    | some text =>
      by_cases empty : text = ""
      · subst empty
        simp [hs, Text.allBlank]
      · simp [empty]

theorem scope_blank (client : Client) (identity : Option Identity) (name : String) :
    ((client.scope identity).lookUp name).all Text.allBlank =
      (if name = IdentityField.subscription.name then
        (identity.bind (·.lookUp name)).or client.subscription
      else identity.bind (·.lookUp name)).all Text.allBlank := by
  have bare : (identity.getD Identity.empty).lookUp name = identity.bind (·.lookUp name) := by
    cases identity with
    | some identity => rfl
    | none =>
      unfold Identity.lookUp
      cases IdentityField.ofName? name with
      | none => rfl
      | some field => cases field <;> rfl
  have whole : client.scope identity = client.scope (some (identity.getD Identity.empty)) := rfl
  rw [whole, ← bare]
  by_cases hn : name = IdentityField.subscription.name
  · rw [if_pos hn, hn, scope_subscription]
    rfl
  · rw [if_neg hn, scope_other client _ hn]

/-- There is nothing wrong with the names of a path if and only if each has a value that is
not blank, nor with the options if none is negative. -/
theorem problems_nil (client : Client) (identity : Option Identity)
    (query : Option QueryOptions) (location : Option String) (operation : Operation) :
    Client.pathProblems (namesOf operation.path) (some (client.scope identity)) query
        (operation.values location) = [] ↔
      (∀ name ∈ namesOf operation.path,
        ¬(operation.given client identity location name).all Text.allBlank = true) ∧
      ∀ options ∈ query, ¬options.IsNegative := by
  have options : query.elim [] QueryOptions.problems = [] ↔
      ∀ options ∈ query, ¬options.IsNegative := by
    cases query with
    | none => simp
    | some options => simpa using problems_negative options
  unfold Client.pathProblems
  rw [List.append_eq_nil_iff, List.append_eq_nil_iff, options, and_right_comm]
  refine and_congr ?_ Iff.rfl
  unfold Identity.problems
  by_cases looked : operation = .call .lookUpName
  · subst looked
    have names : namesOf (Operation.call .lookUpName).path = ["subscription_id", "location"] := by
      decide
    have subscription : (Operation.call .lookUpName).given client identity location
        "subscription_id" = (identity.bind (·.lookUp "subscription_id")).or client.subscription :=
      rfl
    have place : (Operation.call .lookUpName).given client identity location "location" =
        location := rfl
    have blank : ((client.scope identity).lookUp "subscription_id").all Text.allBlank =
        ((identity.bind (·.lookUp "subscription_id")).or client.subscription).all Text.allBlank :=
      scope_blank client identity IdentityField.subscription.name
    simp only [names, Operation.values]
    simp [subscription, place, ofName_nil, blank]
  · have values : operation.values location = [] := by
      unfold Operation.values
      split
      · exact absurd rfl looked
      · rfl
    have same (name : String) : (operation.given client identity location name).all Text.allBlank =
        ((client.scope identity).lookUp name).all Text.allBlank := by
      rw [scope_blank]
      unfold Operation.given
      rw [values]
      rfl
    simp [values, same, ofName_nil]

/-- The path of an operation is refused if and only if a name has no value or an option is
negative. -/
theorem path_checks (client : Client) (identity : Option Identity)
    (query : Option QueryOptions) (location : Option String) (operation : Operation) :
    Checks (client.operationPath operation.path identity query (operation.values location))
      ((∃ name ∈ namesOf operation.path,
        (operation.given client identity location name).all Text.allBlank = true) ∨
        ∃ options ∈ query, options.IsNegative) := by
  have nil := problems_nil client identity query location operation
  unfold Client.operationPath
  rw [buildPath_ofSegments (sound_plain (path_sound operation))]
  cases hp : Client.pathProblems (namesOf operation.path) (some (client.scope identity)) query
      (operation.values location) with
  | nil =>
    obtain ⟨named, plain⟩ := nil.mp hp
    refine ⟨?_, fun _ => ⟨_, rfl⟩⟩
    rintro (⟨name, needed, missing⟩ | ⟨options, given, negative⟩)
    · exact absurd missing (named name needed)
    · exact absurd negative (plain options given)
  | cons problem rest =>
    refine ⟨fun _ => ⟨_, rfl⟩, fun right => ?_⟩
    rw [not_or] at right
    have none : Client.pathProblems (namesOf operation.path) (some (client.scope identity)) query
        (operation.values location) = [] :=
      nil.mpr ⟨fun name needed missing => right.1 ⟨name, needed, missing⟩,
        fun options given negative => right.2 ⟨options, given, negative⟩⟩
    rw [hp] at none
    cases none

/-! ## Complaints -/

def failure? : Except Failure α → Option Failure
  | .error failure => some failure
  | .ok _ => none

/-- What is run complains of the arguments if and only if something is wrong with them, and
then leaves the world as it was. -/
structure Complains (failure : Option Failure) (before after : World) (wrong : Prop) : Prop where
  iff_wrong : (∃ problems, failure = some (.invalidArgument problems)) ↔ wrong
  unchanged : wrong → after = before

theorem complains_never {result : Except Failure α} {before after : World}
    (h : FailsAs Failure.isBlameless result) : Complains (failure? result) before after False := by
  refine ⟨iff_of_false ?_ not_false, False.elim⟩
  rintro ⟨problems, hf⟩
  cases result with
  | ok a => cases hf
  | error failure =>
    cases hf
    exact Bool.false_ne_true (h _ rfl)

theorem complains_refused {problems : List Problem} {before : World} {wrong : Prop} (h : wrong) :
    Complains (some (.invalidArgument problems)) before before wrong :=
  ⟨iff_of_true ⟨problems, rfl⟩ h, fun _ => rfl⟩

/-- Behind a check, an action complains of what the check looks at and of what it complains
of itself. -/
theorem complains_check {check : Except Failure α} {wrong wrong' : Prop}
    (checks : Checks check wrong) {more : α → Action β} {world : World}
    (rest : ∀ a, check = .ok a → Complains (failure? ((more a).run world).1) world
      ((more a).run world).2 wrong') :
    Complains (failure? ((ofExcept id check >>= more).run world).1) world
      ((ofExcept id check >>= more).run world).2 (wrong ∨ wrong') := by
  by_cases hw : wrong
  · obtain ⟨problems, he⟩ := checks.complains hw
    rw [he, run_bind_error (run_ofExcept_error _ _ _)]
    exact complains_refused (.inl hw)
  · obtain ⟨a, ha⟩ := checks.passes hw
    rw [ha, run_bind_ok (run_ofExcept_ok _ _ _), or_iff_right hw]
    exact rest a ha

/-- A request complains of the version alone, and so does what goes on behind it. -/
theorem complains_send {method path : String} {params : Members} {json : Json} {extra : Headers}
    {more : Response → Action β} {world : World}
    (rest : client.apiVersion ≠ "" →
      ∀ response, Action.FailsAs Failure.isBlameless (more response)) :
    Complains (failure? ((client.send method path params json extra >>= more).run world).1) world
      ((client.send method path params json extra >>= more).run world).2
      (client.apiVersion = "") := by
  by_cases unversioned : client.apiVersion = ""
  · rw [run_bind_error (send_unversioned unversioned _ _ _ _ _ _)]
    exact complains_refused unversioned
  · have sent := (send_transport unversioned method path params json extra).mono
      Failure.blameless_of_transport
    have never : Complains
        (failure? ((client.send method path params json extra >>= more).run world).1) world
        ((client.send method path params json extra >>= more).run world).2 False :=
      complains_never (failsAs_then sent (rest unversioned) world)
    exact ⟨never.iff_wrong.trans (iff_of_false not_false unversioned),
      fun empty => absurd empty unversioned⟩

/-- Behind its two checks, a request complains of what these look at, and of the version. -/
theorem complains_submit {method : String} {body : Except Failure Json}
    {place : Except Failure String} {behind : String → Response → Action β} {world : World}
    {unfit misplaced : Prop} (fits : Checks body unfit) (places : Checks place misplaced)
    (rest : client.apiVersion ≠ "" →
      ∀ path response, Action.FailsAs Failure.isBlameless (behind path response)) :
    Complains (failure? ((client.submit method body place behind).run world).1) world
      ((client.submit method body place behind).run world).2
      (unfit ∨ misplaced ∨ client.apiVersion = "") :=
  complains_check fits fun _ _ => complains_check places fun path _ =>
    complains_send fun versioned => rest versioned path

/-! ## Waiting and walking -/

/-- Waiting complains of nothing: the place to ask is not empty, and there is a version for
reading the resource back. -/
theorem blameless_habit (versioned : client.apiVersion ≠ "") :
    client.Habit fun _ => Action.FailsAs Failure.isBlameless where
  returns := failsAs_pure
  fails := failsAs_throw
  bind := failsAs_then
  notes := failsAs_note
  sleeps := failsAs_sleep
  reads path :=
    (send_transport versioned "GET" path [] .null []).mono Failure.blameless_of_transport
  follows filled := (fetchNext_transport filled).mono Failure.blameless_of_transport

def WalkEnd.failure? {ε : Type} : WalkEnd ε → Option ε
  | .failed error => some error
  | _ => none

/-- A walk complains of nothing if no page does: the link of a page is not empty. The
induction is on the leave to fetch. -/
theorem walkFrom_blameless {pager : Pager World Failure Resource}
    (pages : ∀ token, token ≠ some (.plain "") →
      ∀ world, FailsAs Failure.isBlameless (pager.fetch token world).1)
    (emit : Page Resource → List α) (leave seen : Nat) (demand : Option Nat)
    (token : Option Wide) (ht : token ≠ some (.plain "")) (world : World)
    (problems : List Problem) :
    (pager.walkFrom emit leave seen demand token world).1.ending.failure? ≠
      some (.invalidArgument problems) := by
  induction leave generalizing seen demand token world with
  | zero =>
    intro h
    cases h
  | succ leave ih =>
    have blameless := pages token ht world
    have stretch := pager.walkFrom_stretch emit leave seen demand token world
    generalize pager.walkFrom emit (leave + 1) seen demand token world = walked at stretch ⊢
    cases stretch with
    | failed fetched =>
      rw [fetched] at blameless
      intro h
      cases h
      exact Bool.false_ne_true (blameless _ rfl)
    | enough | last =>
      intro h
      cases h
    | @next page link _ after _ fetched _ continues _ behind =>
      have rest := ih (seen + 1) (demand.map (· - (emit page).length)) (some link)
        (fun empty => continuation_ne continues (Option.some.inj empty)) after
      rwa [behind] at rest

/-! ## Operations -/

/-- How the run of an operation fails, if it does. A list is walked, for a caller who wants
so many items, or all if no number is given. -/
def Operation.failure? (client : Client) (identity : Option Identity)
    (query : Option QueryOptions) (parameters : Parameters) (location : Option String)
    (demand : Option Nat) (world : World) : Operation → Option Failure
  | list operation =>
    match client.list operation identity query with
    | .ok pager => (pager.items world.leave demand none world).1.ending.failure?
    | .error failure => some failure
  | call operation =>
    LakeAdmin.failure? ((client.call operation identity parameters location).run world).1
  | long operation => LakeAdmin.failure? ((client.runLong operation identity parameters).run world).1

/-- A walk from the first page complains of the version alone. -/
theorem complains_items {demand : Option Nat} (wanted : demand ≠ some 0)
    (operation : ListOperation) (path : String) (params : Members) (world : World) :
    Complains (Pager.items ⟨client.fetchPage operation path params, none⟩ world.leave demand none
        world).1.ending.failure? world
      (Pager.items ⟨client.fetchPage operation path params, none⟩ world.leave demand none world).2
      (client.apiVersion = "") := by
  unfold Pager.items Pager.walk
  rw [if_neg wanted]
  have none : Pager.tokenOf none = none := rfl
  rw [none]
  by_cases unversioned : client.apiVersion = ""
  · have refused : client.fetchPage operation path params .none world =
        (.error (.invalidArgument [.missing "api_version"]), world) := by
      unfold Client.fetchPage Client.send
      rw [if_pos unversioned]
      rfl
    unfold World.leave
    rw [Pager.walkFrom_failed refused]
    exact complains_refused unversioned
  · have pages (token : Option Wide) (ht : token ≠ some (.plain "")) (world : World) :
        FailsAs Failure.isBlameless (client.fetchPage operation path params token world).1 := by
      have read (response : Response) : Action.FailsAs Failure.isBlameless
          (ofExcept id (response.page Resource.check listSuccess)) :=
        failsAs_result ((page_answered _ _ _).mono Failure.blameless_of_answered)
      cases token with
      | none =>
        have sent := send_transport unversioned operation.method path params .null []
        exact failsAs_then (sent.mono Failure.blameless_of_transport) read world
      | some link =>
        have filled : link ≠ "" := fun empty => ht (congrArg some empty)
        have sent : Action.FailsAs Failure.isTransport (client.follow link) :=
          follow_transport filled
        exact failsAs_then (sent.mono Failure.blameless_of_transport) read world
    refine ⟨iff_of_false ?_ unversioned, fun empty => absurd empty unversioned⟩
    rintro ⟨problems, hf⟩
    have named : (.none : Option Wide) ≠ some (.plain "") := by simp
    exact walkFrom_blameless pages Page.items world.leave 0 demand .none named world problems hf

/-- The ways in which arguments are wrong, in the order in which they are looked at. -/
theorem rejected_iff {identity : Option Identity} {query : Option QueryOptions}
    {parameters : Parameters} {location : Option String} {operation : Operation} :
    operation.Rejected client identity query parameters location ↔
      ¬operation.bodyRule.Fits parameters ∨
        ((∃ name ∈ namesOf operation.path,
          (operation.given client identity location name).all Text.allBlank = true) ∨
          ∃ options ∈ query, (∃ kind, operation = .list kind) ∧ options.IsNegative) ∨
        client.apiVersion = "" := by
  constructor
  · intro rejected
    cases rejected with
    | name needed missing => exact .inr (.inl (.inl ⟨_, needed, missing⟩))
    | options lists given negative =>
      exact .inr (.inl (.inr ⟨_, given, ⟨_, lists⟩, negative⟩))
    | parameters unfit => exact .inl unfit
    | version unversioned => exact .inr (.inr unversioned)
  · rintro (unfit | (⟨name, needed, missing⟩ | ⟨options, given, ⟨kind, lists⟩, negative⟩) |
      unversioned)
    · exact .parameters unfit
    · exact .name needed missing
    · exact .options lists given negative
    · exact .version unversioned

theorem list_complains {demand : Option Nat} (wanted : demand ≠ some 0)
    (operation : ListOperation) (identity : Option Identity) (query : Option QueryOptions)
    (parameters : Parameters) (location : Option String) (world : World) :
    Complains
      ((Operation.list operation).failure? client identity query parameters location demand world)
      world
      ((Operation.list operation).after client identity query parameters location demand world)
      ((Operation.list operation).Rejected client identity query parameters location) := by
  have checks := path_checks client identity query location (.list operation)
  unfold Operation.failure? Operation.after
  rw [rejected_iff]
  have lists (options : QueryOptions) : (∃ kind, Operation.list operation = .list kind) ∧
      options.IsNegative ↔ options.IsNegative := by simp
  simp only [lists]
  have fits : (Operation.list operation).bodyRule.Fits parameters := trivial
  rw [or_iff_right (not_not_intro fits)]
  by_cases wrong : (∃ name ∈ namesOf (Operation.list operation).path,
      ((Operation.list operation).given client identity location name).all Text.allBlank = true) ∨
        ∃ options ∈ query, options.IsNegative
  · obtain ⟨problems, hp⟩ := checks.complains wrong
    rw [list_unplaced operation hp]
    exact complains_refused (.inl wrong)
  · obtain ⟨path, hp⟩ := checks.passes wrong
    rw [list_placed operation hp, or_iff_right wrong]
    exact complains_items wanted operation path _ world

theorem call_complains (operation : CallOperation) (identity : Option Identity)
    (query : Option QueryOptions) (parameters : Parameters) (location : Option String)
    (demand : Option Nat) (world : World) :
    Complains
      ((Operation.call operation).failure? client identity query parameters location demand world)
      world
      ((Operation.call operation).after client identity query parameters location demand world)
      ((Operation.call operation).Rejected client identity query parameters location) := by
  have checks := path_checks client identity none location (.call operation)
  rw [rejected_iff]
  unfold Operation.failure? Operation.after
  simp only [Option.mem_def, reduceCtorEq, false_and, exists_false, and_false, or_false,
    call_stages] at checks ⊢
  exact complains_submit (body_checks (.call operation) parameters) checks
    fun versioned _ response => (blameless_habit versioned).answered (read_answered _ _ response)

theorem long_complains (operation : LongOperation) (identity : Option Identity)
    (query : Option QueryOptions) (parameters : Parameters) (location : Option String)
    (demand : Option Nat) (world : World) :
    Complains
      ((Operation.long operation).failure? client identity query parameters location demand world)
      world
      ((Operation.long operation).after client identity query parameters location demand world)
      ((Operation.long operation).Rejected client identity query parameters location) := by
  have checks := path_checks client identity none location (.long operation)
  rw [rejected_iff]
  unfold Operation.failure? Operation.after
  simp only [Option.mem_def, reduceCtorEq, false_and, exists_false, and_false, or_false,
    runLong_submit] at checks ⊢
  exact complains_submit (body_checks (.long operation) parameters) checks
    fun versioned => (blameless_habit versioned).settle operation

/-- An operation complains of its arguments if and only if they are wrong, and then nothing
has been done: no request was sent, none for a token either. So whatever the service answers
to the first request, no complaint follows. -/
theorem failure_rejected {demand : Option Nat} (wanted : demand ≠ some 0) (client : Client)
    (operation : Operation) (identity : Option Identity) (query : Option QueryOptions)
    (parameters : Parameters) (location : Option String) (world : World) :
    ((∃ problems, operation.failure? client identity query parameters location demand world =
        some (.invalidArgument problems)) ↔
      operation.Rejected client identity query parameters location) ∧
    (operation.Rejected client identity query parameters location →
      operation.after client identity query parameters location demand world = world) := by
  have complains : Complains
      (operation.failure? client identity query parameters location demand world) world
      (operation.after client identity query parameters location demand world)
      (operation.Rejected client identity query parameters location) := by
    cases operation with
    | list operation => exact list_complains wanted operation _ _ _ _ _
    | call operation => exact call_complains operation _ _ _ _ _ _
    | long operation => exact long_complains operation _ _ _ _ _ _
  exact ⟨complains.iff_wrong, complains.unchanged⟩

/-- The rules of an account whose name is blank are refused, those of an account with a name
are not, though the identity leaves the subscription to the client. -/
theorem failure_rejected_blank :
    ∃ client : Client, client.subscription = some "s" ∧
      (let identity := fun account => some ⟨none, some "g", some account, none, none⟩
      let world := World.fresh [.broken "ReadTimeout" ""] 1000 none
      (∃ problems, (Operation.list .firewallRules).failure? client (identity " ") none
        (.plain .null) none none world = some (.invalidArgument problems)) ∧
      (Operation.list .firewallRules).after client (identity " ") none (.plain .null) none none
        world = world ∧
      ¬∃ problems, (Operation.list .firewallRules).failure? client (identity "a") none
        (.plain .null) none none world = some (.invalidArgument problems)) := by
  refine ⟨{ Client.ofSettings .standard with subscription := some "s" }, rfl, ?_⟩
  intro identity world
  have wanted : (none : Option Nat) ≠ some 0 := by simp
  obtain ⟨complains, unchanged⟩ := failure_rejected wanted
    { Client.ofSettings .standard with subscription := some "s" } (.list .firewallRules)
    (identity " ") none (.plain .null) none world
  obtain ⟨complains', -⟩ := failure_rejected wanted
    { Client.ofSettings .standard with subscription := some "s" } (.list .firewallRules)
    (identity "a") none (.plain .null) none world
  have rejected : (Operation.list .firewallRules).Rejected
      { Client.ofSettings .standard with subscription := some "s" } (identity " ") none
      (.plain .null) none := by
    have needed : "account_name" ∈ namesOf (Operation.list .firewallRules).path := by decide
    exact .name needed (by decide)
  have accepted : ¬(Operation.list .firewallRules).Rejected
      { Client.ofSettings .standard with subscription := some "s" } (identity "a") none
      (.plain .null) none := by
    rw [rejected_iff]
    rintro (unfit | (named | ⟨options, given, -⟩) | unversioned)
    · exact unfit trivial
    · revert named
      decide
    · cases given
    · revert unversioned
      decide
  exact ⟨complains.mpr rejected, unchanged rejected, fun blamed => accepted (complains'.mp blamed)⟩

end LakeAdmin
