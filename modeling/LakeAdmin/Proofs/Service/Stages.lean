import LakeAdmin.Proofs.Http.Action
import LakeAdmin.Proofs.Http.Decode
import LakeAdmin.Service.Operation

/-!
The stages of an operation. An operation that takes one request, and one that is waited for,
looks at its body first, then at the names in its path, and sends its request only when both are
right. What differs is what it does with the answer. A list only looks at the names. These
lemmas say once what each stage comes to, so no proof about a run has to open the operation.
-/

namespace LakeAdmin

open Http

variable {α : Type} {client : Client} {identity : Option Identity} {parameters : Parameters}

/-! ## One request behind two checks -/

/-- Sends a body to a path, once both are found to be right, and goes on with the answer. -/
def Client.submit (client : Client) (method : String) (body : Except Failure Json)
    (path : Except Failure String) (rest : String → Response → Action α) : Action α := do
  let body ← Action.ofExcept id body
  let path ← Action.ofExcept id path
  let response ← client.send method path [] body []
  rest path response

section Submit

variable {method : String} {rest : String → Response → Action α}

theorem submit_unfit (failure : Failure) (place : Except Failure String) (world : World) :
    (client.submit method (.error failure) place rest).run world = (.error failure, world) :=
  Action.run_bind_error (Action.run_ofExcept_error _ _ _)

theorem submit_unplaced (json : Json) (failure : Failure) (world : World) :
    (client.submit method (.ok json) (.error failure) rest).run world =
      (.error failure, world) := by
  unfold Client.submit
  rw [Action.run_bind_ok (Action.run_ofExcept_ok _ _ _)]
  exact Action.run_bind_error (Action.run_ofExcept_error _ _ _)

theorem submit_run (json : Json) (path : String) (world : World) :
    (client.submit method (.ok json) (.ok path) rest).run world =
      (client.send method path [] json [] >>= rest path).run world := by
  unfold Client.submit
  rw [Action.run_bind_ok (Action.run_ofExcept_ok _ _ _),
    Action.run_bind_ok (Action.run_ofExcept_ok _ _ _)]

/-- What comes to its end has passed every stage. -/
theorem submit_ok {body : Except Failure Json} {place : Except Failure String} {a : α}
    {world after : World}
    (ran : (client.submit method body place rest).run world = (.ok a, after)) :
    ∃ json path response ready, body = .ok json ∧ place = .ok path ∧
      (client.send method path [] json []).run world = (.ok response, ready) ∧
      (rest path response).run ready = (.ok a, after) := by
  cases body with
  | error failure =>
    rw [submit_unfit] at ran
    cases ran
  | ok json =>
    cases place with
    | error failure =>
      rw [submit_unplaced] at ran
      cases ran
    | ok path =>
      rw [submit_run] at ran
      obtain ⟨response, ready, sent, ended⟩ := Action.run_bind_ok_iff.mp ran
      exact ⟨json, path, response, ready, rfl, rfl, sent, ended⟩

end Submit

/-! ## Operations -/

theorem call_submit (client : Client) (operation : CallOperation) (identity : Option Identity)
    (parameters : Parameters) (location : Option String) :
    client.call operation identity parameters location =
      client.submit operation.method (operation.bodyRule.body parameters)
        (client.operationPath operation.path identity none
          (if operation = .lookUpName then [("location", location)] else []))
        fun _ response => Action.ofExcept id (operation.reading.read operation.success response) :=
  rfl

/-- What an operation that is waited for does behind the first answer. -/
def Client.settle (client : Client) (operation : LongOperation) (path : String)
    (initial : Response) : Action Answer := do
  Action.ofExcept id (initial.requireSuccess operation.success)
  let final ← Poller.wait client initial (if operation.readsBack then some path else none)
  if operation.readsBack then
    Action.ofExcept id (Reading.resource.read [200, 201, 204] final)
  else return .nothing

theorem runLong_submit (client : Client) (operation : LongOperation)
    (identity : Option Identity) (parameters : Parameters) :
    client.runLong operation identity parameters =
      client.submit operation.method (operation.bodyRule.body parameters)
        (client.operationPath Path.account identity none []) (client.settle operation) :=
  rfl

theorem runLong_run {operation : LongOperation} {body : Json} {path : String}
    (valid : operation.bodyRule.body parameters = .ok body)
    (named : client.operationPath Path.account identity none [] = .ok path) (world : World) :
    (client.runLong operation identity parameters).run world =
      (client.send operation.method path [] body [] >>= client.settle operation path).run
        world := by
  rw [runLong_submit, valid, named, submit_run]

/-- An answer that accepts the operation is waited for. -/
theorem settle_run {operation : LongOperation} {path : String} {initial : Response}
    (accepted : initial.status ∈ operation.success) (world : World) :
    (client.settle operation path initial).run world =
      (Poller.wait client initial (if operation.readsBack then some path else none) >>= fun final =>
        if operation.readsBack then
          Action.ofExcept id (Reading.resource.read [200, 201, 204] final)
        else pure .nothing).run world := by
  unfold Client.settle
  rw [Response.requireSuccess_accepted accepted, Action.run_bind_ok (Action.run_ofExcept_ok _ _ _)]

variable {query : Option QueryOptions}

theorem list_placed (operation : ListOperation) {path : String}
    (placed : client.operationPath operation.path identity query [] = .ok path) :
    client.list operation identity query =
      .ok ⟨client.fetchPage operation path (queryParams query), none⟩ := by
  unfold Client.list
  rw [placed]
  rfl

theorem list_unplaced (operation : ListOperation) {failure : Failure}
    (unplaced : client.operationPath operation.path identity query [] = .error failure) :
    client.list operation identity query = .error failure := by
  unfold Client.list
  rw [unplaced]
  rfl

/-- What is done with a list is done with the pages at its path. -/
theorem list_run (operation : ListOperation) {path : String}
    (placed : client.operationPath operation.path identity query [] = .ok path)
    (more : Pager World Failure Resource → Action α) (world : World) :
    (Action.ofExcept id (client.list operation identity query) >>= more).run world =
      (more ⟨client.fetchPage operation path (queryParams query), none⟩).run world := by
  rw [list_placed operation placed, Action.run_bind_ok (Action.run_ofExcept_ok _ _ _)]

/-- A list can be walked if its path has all of its values. -/
theorem list_made {operation : ListOperation} {pager : Pager World Failure Resource}
    (made : client.list operation identity query = .ok pager) :
    ∃ path, client.operationPath operation.path identity query [] = .ok path ∧
      pager = ⟨client.fetchPage operation path (queryParams query), none⟩ := by
  cases placed : client.operationPath operation.path identity query [] with
  | error failure =>
    rw [list_unplaced operation placed] at made
    cases made
  | ok path =>
    rw [list_placed operation placed] at made
    cases made
    exact ⟨path, rfl, rfl⟩

end LakeAdmin
