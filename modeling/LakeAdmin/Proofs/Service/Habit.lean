import LakeAdmin.Proofs.Client.Arguments
import LakeAdmin.Proofs.Service.Stages

/-!
What waiting comes to. While a long operation is polled and read back, a client does nothing but
read, follow links, wait and note, one after the other. So whatever holds of these holds of
waiting, however long it takes and wherever the service says to ask.
-/

namespace LakeAdmin

open Http Poller

variable {α : Type} {client : Client}

/-- A habit of a client: its reads have it, and it is kept from one step to the next, down to
failures that do not complain about the arguments. -/
structure Client.Habit (client : Client) (P : (α : Type) → Action α → Prop) : Prop where
  returns {α : Type} (a : α) : P α (pure a)
  fails {α : Type} {failure : Failure} (blameless : failure.isBlameless = true) :
    P α (throw failure)
  bind {α β : Type} {x : Action α} {f : α → Action β} (hx : P α x) (hf : ∀ a, P β (f a)) :
    P β (x >>= f)
  notes (line : Note) : P Unit (Action.note line)
  sleeps (seconds : Binary64) : P Unit (Action.sleep seconds)
  reads (path : String) : P Response (client.send "GET" path [] .null [])
  follows {link : String} (filled : link ≠ "") : P Response (client.fetchNext link)

theorem filled_ne {headers : Headers} {name value : String}
    (h : headers.filled? name = some value) : value ≠ "" := by
  obtain ⟨-, hne⟩ := Option.filter_eq_some_iff.mp h
  simpa using hne

theorem read_answered (reading : Reading) (success : List Int) (response : Response) :
    FailsAs Failure.isAnswered (reading.read success response) := by
  cases reading with
  | resource => exact failsAs_bind (value_answered _ _ _ _) fun found => failsAs_ok _
  | document => exact failsAs_bind (documentIfAny_answered _ _) fun found => failsAs_ok _
  | nothing => exact failsAs_bind (documentIfAny_answered _ _) fun found => failsAs_ok _

namespace Client.Habit

variable {P : (α : Type) → Action α → Prop} (habit : client.Habit P)

include habit

theorem result {x : Except Failure α} (h : FailsAs Failure.isBlameless x) :
    P α (Action.ofExcept id x) := by
  cases x with
  | error failure => exact habit.fails (h failure rfl)
  | ok a => exact habit.returns a

theorem answered {x : Except Failure α} (h : FailsAs Failure.isAnswered x) :
    P α (Action.ofExcept id x) :=
  habit.result (h.mono Failure.blameless_of_answered)

theorem ask {url : String} (filled : url ≠ "") (last : Response) :
    P Response (Poller.ask client url last) :=
  habit.bind (habit.sleeps _) fun _ => habit.follows filled

/-- Polling for a state. The induction is on the polls that are left. -/
theorem pollStatus {url : String} (filled : url ≠ "") (left attempt : Nat) (last : Response) :
    P Response (Poller.pollStatus client url left attempt last) := by
  induction left generalizing attempt last with
  | zero => exact habit.fails rfl
  | succ left ih =>
    unfold Poller.pollStatus
    refine habit.bind (habit.ask filled last) fun answer => ?_
    refine habit.bind (habit.answered (value_answered _ _ _ answer)) fun status => ?_
    refine habit.bind (habit.notes _) fun _ => ?_
    split
    · exact habit.returns answer
    · split
      · split
        · exact habit.fails rfl
        · exact ih _ _
      · exact ih _ _

/-- Polling for a status, likewise. -/
theorem pollLocation {url : String} (filled : url ≠ "") (left attempt : Nat) (last : Response) :
    P Response (Poller.pollLocation client url left attempt last) := by
  induction left generalizing attempt last with
  | zero => exact habit.fails rfl
  | succ left ih =>
    unfold Poller.pollLocation
    refine habit.bind (habit.ask filled last) fun answer => ?_
    refine habit.bind (habit.notes _) fun _ => ?_
    split
    · exact ih _ _
    · split
      · exact habit.returns answer
      · exact habit.fails (Failure.blameless_of_answered (refused_answered answer))

theorem finish (resource : Option String) (last : Response) :
    P Response (match resource.filter (· ≠ "") with
      | some path => client.send "GET" path [] .null []
      | none => pure last) := by
  split
  · exact habit.reads _
  · exact habit.returns last

/-- Waiting has every habit of the client, wherever the answer to the first request points. -/
theorem wait (initial : Response) (resource : Option String) :
    P Response (Poller.wait client initial resource) := by
  unfold Poller.wait
  dsimp only
  split
  · rename_i url _ hu
    exact habit.bind (habit.pollStatus (filled_ne hu) _ _ _) (habit.finish resource)
  · rename_i url _ hu
    exact habit.bind (habit.pollLocation (filled_ne hu) _ _ _) (habit.finish resource)
  · split
    · exact habit.finish resource initial
    · exact habit.returns initial

/-- Behind its first request, a long operation has every habit of the client. -/
theorem settle (operation : LongOperation) (path : String) (initial : Response) :
    P Answer (client.settle operation path initial) := by
  unfold Client.settle
  refine habit.bind (habit.answered (requireSuccess_answered _ _)) fun _ => ?_
  refine habit.bind (habit.wait _ _) fun final => ?_
  split
  · exact habit.answered (read_answered _ _ _)
  · exact habit.returns _

/-- What is checked and then sent has a habit that the complaints of the checks, the request and
what is done with the answer have, too. -/
theorem submit (complains : ∀ (β : Type) (failure : Failure), P β (throw failure)) {method : String}
    (sends : ∀ path json, P Response (client.send method path [] json []))
    {rest : String → Response → Action α} (rests : ∀ path response, P α (rest path response))
    (body : Except Failure Json) (place : Except Failure String) :
    P α (client.submit method body place rest) := by
  have check {β : Type} (x : Except Failure β) : P β (Action.ofExcept id x) := by
    cases x with
    | error failure => exact complains β failure
    | ok b => exact habit.returns b
  unfold Client.submit
  refine habit.bind (check body) fun json => ?_
  refine habit.bind (check place) fun path => ?_
  exact habit.bind (sends path json) fun response => rests path response

/-- All of a long operation has such a habit. -/
theorem runLong (complains : ∀ (β : Type) (failure : Failure), P β (throw failure))
    (operation : LongOperation)
    (sends : ∀ path json, P Response (client.send operation.method path [] json []))
    (identity : Option Identity) (parameters : Parameters) :
    P Answer (client.runLong operation identity parameters) := by
  rw [runLong_submit]
  exact habit.submit complains sends (habit.settle operation) _ _

end Client.Habit

end LakeAdmin
