import LakeAdmin.Proofs.Model.Account
import LakeAdmin.Proofs.Service.Submission

/-!
The creation of an account. Whatever document the parameters come from, and in whatever form they
are passed, either they are refused with a reason before anything is sent, or the one request
that changes anything carries a body as the service wants it, and all that follows are reads.
-/

namespace LakeAdmin

open Http Http.Action LakeAdmin.Path Schema

variable {α β : Type} {client : Client}

/-! ## Accounts -/

def Operation.createsAccount : Operation → Bool
  | call .beginCreateAccount => true
  | long .createAccount => true
  | _ => false

/-- What the creation of an account comes to: it complains of its arguments, names what is wrong,
and nothing has been done; or nothing is sent for another reason; or one request carries an
account as the service wants it, and all that follows are reads. -/
inductive Creation (failure : Option Failure) (before after : World) : Prop
  | refused {problems : List Problem} (reason : problems ≠ [])
      (complains : failure = some (.invalidArgument problems)) (untouched : after = before)
  | unsent {other : Failure} (fails : failure = some other) (blameless : other.isBlameless = true)
      (unsent : after.deeds = before.deeds)
  | sent {request : Request} {body : Json} {rest : List Deed}
      (blameless : ∀ other ∈ failure, other.isBlameless = true)
      (deeds : after.deeds = before.deeds ++ .asked request :: rest)
      (method : request.method = "PUT") (carries : request.body = .json body)
      (account : body.IsAccount) (reads : ∀ deed ∈ rest, deed.IsRead)

/-- An action creates an account if, once nothing is wrong with its arguments, it sends one and
then reads. -/
theorem creation_of_run (client : Client) {action : Action α} {world : World} {wrong : Prop}
    (complains : Complains (failure? (action.run world).1) world (action.run world).2 wrong)
    (reasoned : Action.FailsAs Failure.isReasoned action)
    (right : ¬wrong → ∃ (path : String) (members : Members) (more : Response → Action α),
      (Json.obj members).IsAccount ∧
      action.run world = (client.send "PUT" path [] (.obj members) [] >>= more).run world ∧
      ∀ response, (more response).Reads) :
    Creation (failure? (action.run world).1) world (action.run world).2 := by
  have submitted := submission_of_run client complains reasoned right
  cases submitted with
  | refused reason complains untouched => exact .refused reason complains untouched
  | unsent fails blameless unsent => exact .unsent fails blameless unsent
  | sent blameless deeds method carries account reads =>
    exact .sent blameless deeds method carries account reads

/-- Where nothing is wrong with the arguments, there is an account to send, and a path. -/
theorem creation_ready {operation : Operation} (creates : operation.createsAccount = true)
    {document : Json} {parameters : Parameters} (pass : parameters.Pass document)
    {identity : Option Identity} {query : Option QueryOptions} {location : Option String}
    (right : ¬operation.Rejected client identity query parameters location) :
    ∃ (path : String) (members : Members), (Json.obj members).IsAccount ∧
      operation.bodyRule.body parameters = .ok (.obj members) ∧
      client.operationPath operation.path identity none (operation.values location) =
        .ok path := by
  have rule : operation.bodyRule = .required .createAccount := by
    unfold Operation.createsAccount at creates
    split at creates
    · rfl
    · rfl
    · cases creates
  rw [rejected_iff, not_or, not_or, not_not] at right
  obtain ⟨fits, plain, -⟩ := right
  rw [rule] at fits
  obtain ⟨given, account, made⟩ := fits
  have accepted : BodyKind.createAccount.validate parametersName parameters = .ok account :=
    validate_ok.mpr ⟨given, made⟩
  have body := body_validated accepted _ List.mem_cons_self
  have named : ¬∃ name ∈ namesOf operation.path,
      (operation.given client identity location name).all Text.allBlank = true :=
    fun wrong => plain (.inl wrong)
  obtain ⟨path, hp⟩ := (path_checks client identity none location operation).passes
    (by simpa using named)
  exact ⟨path, _, account_isAccount (ofParameters_valid pass made), by rw [rule]; exact body, hp⟩

/-- Whoever creates an account, waiting for it or not, either is told what is wrong with the
arguments, and nothing is sent, or sends an account as the service wants it. -/
theorem operation_creation {operation : Operation} (creates : operation.createsAccount = true)
    {document : Json} {parameters : Parameters} (pass : parameters.Pass document)
    (client : Client) (identity : Option Identity) (query : Option QueryOptions)
    (location : Option String) (demand : Option Nat) (world : World) :
    Creation (operation.failure? client identity query parameters location demand world) world
      (operation.after client identity query parameters location demand world) := by
  unfold Operation.createsAccount at creates
  split at creates
  · refine creation_of_run client
      (call_complains _ identity query parameters location demand world)
      (call_reasoned _ _ _ _) fun right => ?_
    obtain ⟨path, members, account, hb, hp⟩ := creation_ready rfl pass right
    obtain ⟨more, sends⟩ := call_sends .beginCreateAccount hb hp world
    exact ⟨path, members, more, account, sends⟩
  · refine creation_of_run client
      (long_complains _ identity query parameters location demand world)
      (long_reasoned _ _ _) fun right => ?_
    obtain ⟨path, members, account, hb, hp⟩ := creation_ready rfl pass right
    obtain ⟨more, sends⟩ := long_sends .createAccount hb hp world
    exact ⟨path, members, more, account, sends⟩
  · cases creates

/-- An open client sends the account that the parameters make up, if its path is reached. -/
theorem creation_sent {base : Url} {path : String} {identity : Option Identity}
    {query : Option QueryOptions} {parameters : Parameters} {location : Option String}
    {demand : Option Nat} {world : World} {failure : Option Failure} {body : Json}
    (ready : client.IsOpen) (reaches : client.Reaches base path)
    (made : LongOperation.createAccount.bodyRule.body parameters = .ok body)
    (placed : client.operationPath Path.account identity none [] = .ok path)
    (value : Client.bodyOf body = .ok (.json body))
    (creation : Creation failure world ((Operation.long .createAccount).after client identity
      query parameters location demand world)) :
    ∃ request rest, ((Operation.long .createAccount).after client identity query parameters
        location demand world).deeds = world.deeds ++ .asked request :: rest ∧
      request.method = "PUT" ∧ request.body = .json body ∧ body.IsAccount := by
  obtain ⟨more, ran, reads⟩ := long_sends .createAccount made placed world
  have after : (Operation.long .createAccount).after client identity query parameters location
      demand world = ((client.send "PUT" path [] body [] >>= more).run world).2 :=
    congrArg Prod.snd ran
  rw [after] at creation ⊢
  rcases bind_sends (send_turn client "PUT" path [] body [] world) reads with
    ⟨failure, why, -⟩ | ⟨request, rest, asks, deeds, -⟩
  · exact absurd why (reaches_unsent reaches ready ready.fits value)
  · have sent : request.body = .json body := Except.ok.inj (asks.body_eq.symm.trans value)
    refine ⟨request, rest, deeds, asks.method_eq, sent, ?_⟩
    cases creation with
    | refused reason complains untouched =>
      rw [untouched] at deeds
      simp at deeds
    | unsent fails blameless unsent =>
      rw [unsent] at deeds
      simp at deeds
    | sent blameless deeds' method carries account reads =>
      obtain ⟨same, -⟩ := List.cons.inj (List.append_cancel_left (deeds'.symm.trans deeds))
      cases same
      rw [sent] at carries
      cases carries
      exact account

/-- An account whose number of jobs came as a truth value, passed as the value that was made of
it: it is sent, and the number is one. -/
theorem operation_creation_account :
    ∃ (document body : Json) (parameters : Parameters) (request : Request) (rest : List Deed),
      document = .obj [
        ("location", .str "l"), ("default_data_lake_store_account", .str "s"),
        ("data_lake_store_accounts", .arr [.obj [("name", .str "s")]]),
        ("max_job_count", .bool true)] ∧
      parameters.Pass document ∧
      ((Operation.long .createAccount).after (Client.ofSettings .standard)
        (some ⟨some "s", some "g", some "a", none, none⟩) none parameters none none
        (World.fresh [.response (.bare 201)] 1000 none)).deeds = .asked request :: rest ∧
      request.method = "PUT" ∧ request.body = .json body ∧ body.IsAccount ∧
      body = .obj [("location", .str "l"), ("properties", .obj [
        ("defaultDataLakeStoreAccount", .str "s"),
        ("dataLakeStoreAccounts", .arr [.obj [("name", .str "s"), ("properties", .obj [])]]),
        ("maxJobCount", .int 1)])] := by
  let client := Client.ofSettings .standard
  let identity : Option Identity := some ⟨some "s", some "g", some "a", none, none⟩
  let world := World.fresh [.response (.bare 201)] 1000 none
  let account : CreateAccount := ⟨"l", "s", [⟨"s", none⟩], [], none, none, some 1, none⟩
  let parameters : Parameters := .checked (.body .createAccount account)
  let document : Json := .obj [
    ("location", .str "l"), ("default_data_lake_store_account", .str "s"),
    ("data_lake_store_accounts", .arr [.obj [("name", .str "s")]]), ("max_job_count", .bool true)]
  let body : Json := .obj [("location", .str "l"), ("properties", .obj [
    ("defaultDataLakeStoreAccount", .str "s"),
    ("dataLakeStoreAccounts", .arr [.obj [("name", .str "s"), ("properties", .obj [])]]),
    ("maxJobCount", .int 1)])]
  have read : ModelKind.check (.body .createAccount) document =
      .valid (.body .createAccount account) := rfl
  have pass : parameters.Pass document := .checked read
  have creation := operation_creation (show (Operation.long .createAccount).createsAccount = true
    from rfl) pass client identity none none none world
  -- The request goes to a path that is reached, so it is sent, with what the account makes up.
  have made : LongOperation.createAccount.bodyRule.body parameters = .ok body := rfl
  obtain ⟨path, placed⟩ : ∃ path, client.operationPath Path.account identity none [] = .ok path :=
    ⟨_, rfl⟩
  have reaches := standard_place (by decide) (by decide) placed (by decide +kernel)
  have value : Client.bodyOf body = .ok (.json body) := rfl
  obtain ⟨request, rest, deeds, method, sent, account⟩ :=
    creation_sent standard_open reaches made placed value creation
  exact ⟨document, body, parameters, request, rest, rfl, pass, deeds, method, sent, account, rfl⟩

end LakeAdmin
