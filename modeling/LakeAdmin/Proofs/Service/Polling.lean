import LakeAdmin.Proofs.Client.Segments
import LakeAdmin.Proofs.Client.Sending
import LakeAdmin.Proofs.Service.Stages

/-!
Waiting for an operation that the service has accepted. The place that the first answer
names is asked again and again, with one wait before each time, as long as its answers
leave the operation pending, and at most as often as the client allows. `Polling` says
which traces this may leave, and `Finishes` what follows it: the resource is read back
once, if the operation has one.
-/

namespace LakeAdmin

open Http LakeAdmin.Path Poller Url

/-! ## Verdicts -/

namespace Poller

/-- How an operation is asked about: at a place with a status document, or at a place
that answers 202 until the operation is done. -/
inductive Protocol where
  | status
  | location
  deriving DecidableEq, Repr

/-- How and where an accepted operation is asked about. A place with a status document
goes before any other. -/
def placeOf? (initial : Response) : Option (Protocol × String) :=
  match initial.headers.filled? "Azure-AsyncOperation" with
  | some url => some (.status, url)
  | none => (initial.headers.filled? "Location").map fun url => (.location, url)

/-- What an answer says of an operation. -/
inductive Verdict where
  | pending
  | done
  | failed (failure : Failure)

/-- What a status document says; an empty answer says nothing. -/
def documentVerdict (response : Response) (url : String) : Option OperationStatus → Verdict
  | none => .pending
  | some document =>
    let state := Text.lower (document.status.elim "" Wide.shown)
    if state = succeeded then .done
    else if state ∈ failures then .failed (failureOf response url document)
    else .pending

/-- What an answer says of an operation that is asked about in this way. -/
def Protocol.verdict (protocol : Protocol) (url : String) (response : Response) : Verdict :=
  match protocol with
  | .status =>
    match response.value "OperationStatus" OperationStatus.check [200] with
    | .error failure => .failed failure
    | .ok document => documentVerdict response url document
  | .location =>
    if response.status = 202 then .pending
    else if response.status ∈ [200, 201, 204] then .done
    else .failed response.refused

def Protocol.poll : Protocol → Client → String → Nat → Nat → Response → Action Response
  | .status => pollStatus
  | .location => pollLocation

theorem placeOf_ne {initial : Response} {protocol : Protocol} {url : String}
    (h : placeOf? initial = some (protocol, url)) : url ≠ "" := by
  have filled {name : String} (hf : initial.headers.filled? name = some url) : url ≠ "" := by
    obtain ⟨-, hne⟩ := Option.filter_eq_some_iff.mp hf
    simpa using hne
  unfold placeOf? at h
  split at h
  · rename_i found
    cases h
    exact filled found
  · obtain ⟨_, found, he⟩ := Option.map_eq_some_iff.mp h
    cases he
    exact filled found

end Poller

/-! ## One poll -/

/-- A poll is a wait and one turn. -/
theorem ask_turn (client : Client) {url : String} (hu : url ≠ "") (last : Response)
    (world : World) :
    client.Turn "GET" url none .null
      (world.record (.slept (delay last client.pollInterval)))
      ((ask client url last).run world).1 ((ask client url last).run world).2 := by
  unfold ask
  rw [Action.run_bind_ok (Action.run_sleep _ _)]
  exact fetchNext_turn client hu _

theorem poll_error {client : Client} {url : String} {last : Response} {world after : World}
    {failure : Failure} (protocol : Protocol) (left attempt : Nat)
    (h : (ask client url last).run world = (.error failure, after)) :
    (protocol.poll client url (left + 1) attempt last).run world = (.error failure, after) := by
  cases protocol with
  | status =>
    simp only [Protocol.poll, pollStatus]
    exact Action.run_bind_error h
  | location =>
    simp only [Protocol.poll, pollLocation]
    exact Action.run_bind_error h

/-- What follows an answer is settled by its verdict. Between the two there is at most a
line of the log. -/
theorem poll_ok {client : Client} {url : String} {last response : Response}
    {world after : World} (protocol : Protocol) (left attempt : Nat)
    (h : (ask client url last).run world = (.ok response, after)) :
    ∃ settled : World, settled.deeds = after.deeds ∧ settled.replies = after.replies ∧
      (protocol.poll client url (left + 1) attempt last).run world =
        match protocol.verdict url response with
        | .pending => (protocol.poll client url left (attempt + 1) response).run settled
        | .done => (.ok response, settled)
        | .failed failure => (.error failure, settled) := by
  cases protocol with
  | status =>
    simp only [Protocol.poll, pollStatus]
    rw [Action.run_bind_ok h]
    unfold Protocol.verdict
    dsimp only
    cases hv : response.value "OperationStatus" OperationStatus.check [200] with
    | error failure => exact ⟨after, rfl, rfl, Action.run_bind_error (Action.run_ofExcept_error _ _ _)⟩
    | ok status =>
      refine ⟨after.record (.noted (.pollState url attempt (stateOf status))), deeds_noted _ _,
        rfl, ?_⟩
      rw [Action.run_bind_ok (Action.run_ofExcept_ok _ _ _),
        Action.run_bind_ok (Action.run_note _ _)]
      cases status with
      | none =>
        have hs : stateOf none ≠ succeeded := by decide
        rw [if_neg hs]
        rfl
      | some document =>
        have hs : stateOf (some document) = Text.lower (document.status.elim "" Wide.shown) := rfl
        unfold documentVerdict
        dsimp only
        rw [← hs]
        by_cases done : stateOf (some document) = succeeded
        · rw [if_pos done, if_pos done]
          rfl
        · rw [if_neg done, if_neg done]
          by_cases failed : stateOf (some document) ∈ failures
          · rw [if_pos failed, if_pos (List.contains_iff_mem.mpr failed)]
            rfl
          · rw [if_neg failed, if_neg fun h => failed (List.contains_iff_mem.mp h)]
  | location =>
    simp only [Protocol.poll, pollLocation]
    rw [Action.run_bind_ok h]
    refine ⟨after.record (.noted (.pollStatus url attempt response.status)), deeds_noted _ _,
      rfl, ?_⟩
    rw [Action.run_bind_ok (Action.run_note _ _)]
    unfold Protocol.verdict
    dsimp only
    by_cases pending : response.status = 202
    · rw [if_pos pending, if_pos pending]
    · rw [if_neg pending, if_neg pending]
      by_cases done : response.status ∈ [200, 201, 204]
      · rw [if_pos done, if_pos (List.contains_iff_mem.mpr done)]
        rfl
      · rw [if_neg done, if_neg fun h => done (List.contains_iff_mem.mp h)]
        rfl

/-! ## All polls -/

/-- What asking at a place leaves behind, where it may be asked `left` times, the last
answer and the replies to come are given, and what comes of it: the answer that is the
last one, and the replies that are left. -/
inductive Client.Polling (client : Client) (protocol : Protocol) (url : String) :
    (left : Nat) → Response → List Reply → List Deed → Except Failure Response →
      List Reply → Prop
  /-- There is no leave to ask. -/
  | timedOut {last : Response} {queue : List Reply} :
      Client.Polling client protocol url 0 last queue [] (.error (.timedOut client.maxPolls)) queue
  /-- The place cannot be asked: it is no URL, or there is no token. -/
  | unsent {left : Nat} {last : Response} {queue rest : List Reply} {failure : Failure}
      (why : client.Unsent url none .null failure) (leaves : client.Leaves queue rest) :
      Client.Polling client protocol url (left + 1) last queue
        [.slept (delay last client.pollInterval)] (.error failure) rest
  /-- No response comes. -/
  | lost {left : Nat} {last : Response} {queue rest : List Reply} {request : Request}
      {failure : Failure} (leaves : client.Leaves queue rest)
      (asks : client.Asks "GET" url none .null request)
      (none : outcome request rest = .error failure) :
      Client.Polling client protocol url (left + 1) last queue
        [.slept (delay last client.pollInterval), .asked request] (.error failure) rest.tail
  /-- The response says that the operation has failed, or it says nothing of use. -/
  | failed {left : Nat} {last response : Response} {queue rest : List Reply}
      {request : Request} {failure : Failure} (leaves : client.Leaves queue rest)
      (asks : client.Asks "GET" url none .null request)
      (answer : outcome request rest = .ok response)
      (verdict : protocol.verdict url response = .failed failure) :
      Client.Polling client protocol url (left + 1) last queue
        [.slept (delay last client.pollInterval), .asked request] (.error failure) rest.tail
  /-- The response says that the operation is done. -/
  | done {left : Nat} {last response : Response} {queue rest : List Reply}
      {request : Request} (leaves : client.Leaves queue rest)
      (asks : client.Asks "GET" url none .null request)
      (answer : outcome request rest = .ok response)
      (verdict : protocol.verdict url response = .done) :
      Client.Polling client protocol url (left + 1) last queue
        [.slept (delay last client.pollInterval), .asked request] (.ok response) rest.tail
  /-- The operation is pending, and the place is asked once more. -/
  | pending {left : Nat} {last response : Response} {queue rest final : List Reply}
      {request : Request} {deeds : List Deed} {result : Except Failure Response}
      (leaves : client.Leaves queue rest) (asks : client.Asks "GET" url none .null request)
      (answer : outcome request rest = .ok response)
      (verdict : protocol.verdict url response = .pending)
      (more : Client.Polling client protocol url left response rest.tail deeds result final) :
      Client.Polling client protocol url (left + 1) last queue
        (.slept (delay last client.pollInterval) :: .asked request :: deeds) result final

/-- The loop of a protocol polls. -/
theorem poll_polling (client : Client) (protocol : Protocol) {url : String} (hu : url ≠ "")
    (left attempt : Nat) (last : Response) (world : World) :
    ∃ deeds,
      client.Polling protocol url left last world.replies deeds
        ((protocol.poll client url left attempt last).run world).1
        ((protocol.poll client url left attempt last).run world).2.replies ∧
      ((protocol.poll client url left attempt last).run world).2.deeds =
        world.deeds ++ deeds := by
  induction left generalizing attempt last world with
  | zero =>
    have out : (protocol.poll client url 0 attempt last).run world =
        (.error (.timedOut client.maxPolls), world) := by
      cases protocol <;> simp [Protocol.poll, pollStatus, pollLocation]
    rw [out]
    exact ⟨[], .timedOut, by simp⟩
  | succ left ih =>
    have turn := ask_turn client hu last world
    rcases ha : (ask client url last).run world with ⟨result, after⟩
    rw [ha] at turn
    dsimp only at turn
    cases result with
    | error failure =>
      rw [poll_error protocol left attempt ha]
      generalize he : (Except.error failure : Except Failure Response) = result at turn
      cases turn with
      | unsent why deeds leaves =>
        cases he
        exact ⟨_, .unsent why leaves, by simp [deeds]⟩
      | @sent request rest _ asks leaves deeds replies =>
        dsimp only
        rw [replies, ← he]
        exact ⟨_, .lost leaves asks he.symm, by simp [deeds]⟩
    | ok response =>
      obtain ⟨settled, sameDeeds, sameReplies, next⟩ := poll_ok protocol left attempt ha
      generalize he : (Except.ok response : Except Failure Response) = result at turn
      cases turn with
      | unsent why deeds leaves => cases he
      | @sent request rest _ asks leaves deeds replies =>
        have before : settled.deeds =
            world.deeds ++ [.slept (delay last client.pollInterval), .asked request] := by
          simp [sameDeeds, deeds]
        rw [next]
        cases hv : protocol.verdict url response with
        | pending =>
          obtain ⟨more, polling, final⟩ := ih (attempt + 1) response settled
          rw [sameReplies, replies] at polling
          exact ⟨_, .pending leaves asks he.symm hv polling, by simp [final, before]⟩
        | done =>
          dsimp only
          rw [sameReplies, replies]
          exact ⟨_, .done leaves asks he.symm hv, before⟩
        | failed failure =>
          dsimp only
          rw [sameReplies, replies]
          exact ⟨_, .failed leaves asks he.symm hv, before⟩

/-- There are no more waits than there is leave to ask, and no more requests than waits. -/
theorem polling_counts {client : Client} {protocol : Protocol} {url : String} {left : Nat}
    {last : Response} {queue rest : List Reply} {deeds : List Deed}
    {result : Except Failure Response}
    (h : client.Polling protocol url left last queue deeds result rest) :
    deeds.countP Deed.isWait ≤ left ∧
      deeds.countP (!Deed.isWait ·) ≤ deeds.countP Deed.isWait := by
  have waited (seconds : Binary64) (rest : List Deed) :
      (Deed.slept seconds :: rest).countP Deed.isWait = rest.countP Deed.isWait + 1 ∧
        (Deed.slept seconds :: rest).countP (!Deed.isWait ·) =
          rest.countP (!Deed.isWait ·) := by
    simp [List.countP_cons, Deed.isWait]
  have asked (request : Request) (rest : List Deed) :
      (Deed.asked request :: rest).countP Deed.isWait = rest.countP Deed.isWait ∧
        (Deed.asked request :: rest).countP (!Deed.isWait ·) =
          rest.countP (!Deed.isWait ·) + 1 := by
    simp [Deed.isWait]
  induction h with
  | timedOut => simp
  | unsent why leaves => simp [waited]
  | lost leaves asks none => simp [waited, asked]
  | failed leaves asks answer verdict => simp [waited, asked]
  | done leaves asks answer verdict => simp [waited, asked]
  | pending leaves asks answer verdict more ih =>
    simp only [waited, asked]
    omega

/-! ## The end of the wait -/

/-- What follows the polls: nothing if they failed or if the resource is gone; else one
read of the resource at its path, with the version alone. -/
inductive Client.Finishes (client : Client) (operation : LongOperation) (path : String) :
    Except Failure Response → List Reply → List Deed → Except Failure Answer → Prop
  | failed {failure : Failure} {queue : List Reply} :
      Client.Finishes client operation path (.error failure) queue [] (.error failure)
  | gone {last : Response} {queue : List Reply} (none : operation.readsBack = false) :
      Client.Finishes client operation path (.ok last) queue [] (.ok .nothing)
  | unsent {last : Response} {queue : List Reply} {address : String} {failure : Failure}
      (some : operation.readsBack = true) (place : client.resolve path = .ok address)
      (why : client.Tokenless address failure) :
      Client.Finishes client operation path (.ok last) queue [] (.error failure)
  | read {last : Response} {queue left : List Reply} {request : Request}
      (some : operation.readsBack = true) (leaves : client.Leaves queue left)
      (asks : client.Asks "GET" path (.some [("api-version", client.apiVersion)]) .null request) :
      Client.Finishes client operation path (.ok last) queue [.asked request]
        ((outcome request left).bind (Reading.resource.read [200, 201, 204]))

/-- Waiting is polling, and reading the resource behind it. -/
theorem wait_run {client : Client} {initial : Response} {protocol : Protocol} {url : String}
    (h : placeOf? initial = some (protocol, url)) (resource : Option String) (world : World) :
    (wait client initial resource).run world =
      (protocol.poll client url client.maxPolls.toNat 1 initial >>= fun last =>
        match resource.filter (· ≠ "") with
        | some path => client.send "GET" path [] .null []
        | none => pure last).run world := by
  unfold placeOf? at h
  unfold wait
  split at h
  · rename_i found
    cases h
    rw [found]
    rfl
  · rename_i missing
    obtain ⟨place, found, he⟩ := Option.map_eq_some_iff.mp h
    cases he
    rw [missing, found]
    rfl

/-- What a long operation does when its polls have found it done. -/
def Client.finish (client : Client) (operation : LongOperation) (path : String) :
    Action Answer :=
  if operation.readsBack then do
    let final ← client.send "GET" path [] .null []
    Action.ofExcept id (Reading.resource.read [200, 201, 204] final)
  else pure .nothing

theorem finish_finishes {client : Client} {path method : String} {json : Json}
    {request : Request} (operation : LongOperation)
    (asked : client.Asks method path (some [("api-version", client.apiVersion)]) json request)
    (last : Response) (world : World) :
    ∃ deeds,
      client.Finishes operation path (.ok last) world.replies deeds
        ((client.finish operation path).run world).1 ∧
      ((client.finish operation path).run world).2.deeds = world.deeds ++ deeds := by
  unfold Client.finish
  cases hr : operation.readsBack with
  | false => exact ⟨[], .gone hr, by simp⟩
  | true =>
    have turn := send_turn client "GET" path [] .null [] world
    rw [if_pos rfl, Action.run_bind]
    rcases hs : (client.send "GET" path [] .null []).run world with ⟨result, after⟩
    rw [hs] at turn
    dsimp only at turn
    clear hs
    cases turn with
    | unsent why deeds leaves =>
      obtain ⟨address, place, why⟩ := unsent_tokenless asked why
      exact ⟨[], .unsent hr place why, by simpa using deeds⟩
    | @sent again left _ asks leaves deeds replies =>
      have read : client.Finishes operation path (.ok last) world.replies [.asked again] _ :=
        .read hr leaves asks
      cases ho : outcome again left with
      | error failure =>
        rw [ho] at read
        exact ⟨_, read, deeds⟩
      | ok response =>
        rw [ho] at read
        dsimp only
        rw [Action.run_ofExcept]
        exact ⟨_, read, deeds⟩

theorem account_ne {client : Client} {identity : Option Identity} {path : String}
    (named : client.operationPath Path.account identity none [] = .ok path) : path ≠ "" := by
  rw [(buildPath_ok (by decide) named).2]
  exact pathText_ne (by decide)

/-- Behind an answer that accepts the operation and names a place come the polls, and what
follows them. -/
theorem settle_accepted {client : Client} {operation : LongOperation} {path url : String}
    {initial : Response} {protocol : Protocol} (filled : path ≠ "")
    (hs : initial.status ∈ operation.success) (ha : placeOf? initial = some (protocol, url))
    (ready : World) :
    (client.settle operation path initial).run ready =
      (protocol.poll client url client.maxPolls.toNat 1 initial >>= fun _ =>
        client.finish operation path).run ready := by
  rw [settle_run hs, Action.run_bind, wait_run ha, Action.run_bind, Action.run_bind]
  rcases (protocol.poll client url client.maxPolls.toNat 1 initial).run ready with
    ⟨_ | last, after⟩
  · rfl
  · dsimp only
    unfold Client.finish
    cases operation.readsBack with
    | false => rfl
    | true =>
      have kept : (some path).filter (· ≠ "") = some path := by simp [Option.filter, filled]
      rw [if_pos rfl, if_pos rfl, kept, Action.run_bind]
      rfl

/-- A long operation that was accepted is its polls, and what follows them. -/
theorem runLong_accepted {client : Client} {operation : LongOperation}
    {identity : Option Identity} {parameters : Parameters} {body : Json} {path url : String}
    {initial : Response} {protocol : Protocol} {world ready : World}
    (hb : operation.bodyRule.body parameters = .ok body)
    (hp : client.operationPath Path.account identity none [] = .ok path)
    (hi : (client.send operation.method path [] body []).run world = (.ok initial, ready))
    (hs : initial.status ∈ operation.success) (ha : placeOf? initial = some (protocol, url)) :
    (client.runLong operation identity parameters).run world =
      (protocol.poll client url client.maxPolls.toNat 1 initial >>= fun _ =>
        client.finish operation path).run ready := by
  rw [runLong_run hb hp, Action.run_bind_ok hi]
  exact settle_accepted (account_ne hp) hs ha ready

/-- Whoever runs a long operation that the service accepts asks at the place that its
answer names, with one wait before each time, as long as the operation is pending, and
not more often than the client allows. Where it is done, the resource is read back once,
if there is one to read; where it failed or leave to ask ran out, nothing follows. -/
theorem runLong_polls {client : Client} {operation : LongOperation}
    {identity : Option Identity} {parameters : Parameters} {body : Json} {path url : String}
    {initial : Response} {protocol : Protocol} {world ready : World}
    (hb : operation.bodyRule.body parameters = .ok body)
    (hp : client.operationPath Path.account identity none [] = .ok path)
    (hi : (client.send operation.method path [] body []).run world = (.ok initial, ready))
    (hs : initial.status ∈ operation.success) (ha : placeOf? initial = some (protocol, url)) :
    ∃ request polls result queue rest,
      client.Asks operation.method path (some [("api-version", client.apiVersion)]) body
        request ∧
      client.Polling protocol url client.maxPolls.toNat initial ready.replies polls result
        queue ∧
      client.Finishes operation path result queue rest
        ((client.runLong operation identity parameters).run world).1 ∧
      ((client.runLong operation identity parameters).run world).2.deeds =
        world.deeds ++ [.asked request] ++ polls ++ rest ∧
      polls.countP Deed.isWait ≤ client.maxPolls.toNat ∧
      polls.countP (!Deed.isWait ·) ≤ polls.countP Deed.isWait := by
  have turn := send_turn client operation.method path [] body [] world
  rw [hi] at turn
  dsimp only at turn
  generalize he : (Except.ok initial : Except Failure Response) = result at turn
  cases turn with
  | unsent why deeds leaves => cases he
  | @sent request left _ asks leaves deeds replies =>
    obtain ⟨polls, polling, polled⟩ := poll_polling client protocol (placeOf_ne ha)
      client.maxPolls.toNat 1 initial ready
    have counts := polling_counts polling
    rw [runLong_accepted hb hp hi hs ha, Action.run_bind]
    rcases hr : (protocol.poll client url client.maxPolls.toNat 1 initial).run ready with
      ⟨failure | last, after⟩
    · rw [hr] at polling polled
      exact ⟨request, polls, _, _, [], asks, polling, .failed, by simp [polled, deeds], counts⟩
    · rw [hr] at polling polled
      obtain ⟨rest, finishes, finished⟩ := finish_finishes operation asks last after
      exact ⟨request, polls, _, _, rest, asks, polling, finishes,
        by simp [finished, polled, deeds], counts⟩

/-- The deletion of an account that the service accepts, and then says nothing more of. -/
theorem runLong_polls_deletion :
    ∃ path initial ready polls result queue,
      (Client.ofSettings .standard).operationPath Path.account
        (some ⟨some "s", some "g", some "a", none, none⟩) none [] = .ok path ∧
      ((Client.ofSettings .standard).send "DELETE" path [] .null []).run
        (World.fresh [.response ⟨202, [("Location", "/o")], [], none, none, 100⟩] 1000 none) =
          (.ok initial, ready) ∧
      initial.status = 202 ∧ placeOf? initial = some (.location, "/o") ∧
      (Client.ofSettings .standard).Polling .location "/o" 120 initial ready.replies polls
        result queue := by
  have sound : isSound false Path.account = true := by decide
  obtain ⟨path, hp⟩ : ∃ path, (Client.ofSettings .standard).operationPath Path.account
      (some ⟨some "s", some "g", some "a", none, none⟩) none [] = .ok path := ⟨_, rfl⟩
  obtain ⟨problems, whole⟩ := buildPath_ok (sound_plain sound) hp
  have below : IsBelow path := by
    rw [whole]
    exact pathText_below sound (by decide) (nameValue_ne problems)
  have short : path.length + 30 ≤ Url.lengthLimit := by
    rw [whole]
    decide +kernel
  obtain ⟨request, absolute, sent, -⟩ := send_reaches (standard_reaches below short)
    standard_open (show Client.bodyOf .null = .ok .none from rfl) "DELETE" []
    (World.fresh [.response ⟨202, [("Location", "/o")], [], none, none, 100⟩] 1000 none)
  rcases hi : ((Client.ofSettings .standard).send "DELETE" path [] .null []).run
    (World.fresh [.response ⟨202, [("Location", "/o")], [], none, none, 100⟩] 1000 none) with
    ⟨result, ready⟩
  rw [hi] at sent
  have accepted : result =
      .ok ⟨202, [("Location", "/o")], [], some (request.method, request.url.toText), none, 100⟩ := by
    refine sent.trans ?_
    show accept request _ = _
    unfold accept
    rw [absolute]
    rfl
  subst accepted
  have place : placeOf? ⟨202, [("Location", "/o")], [], none, none, 100⟩ = some (.location, "/o") := by
    decide +kernel
  have success : (202 : Int) ∈ LongOperation.deleteAccount.success := by decide
  have unwritten : LongOperation.deleteAccount.bodyRule.body (.plain .null) = .ok .null := rfl
  obtain ⟨-, polls, result, queue, -, -, polling, -⟩ :=
    runLong_polls unwritten hp hi success place
  exact ⟨path, _, ready, polls, result, queue, hp, hi, rfl, place, polling⟩

end LakeAdmin
