import LakeAdmin.Proofs.Client.Credentials
import LakeAdmin.Proofs.Pager
import LakeAdmin.Proofs.Service.Habit

/-!
Tokens stay with the own host in every use of a client: on walks over lists, whatever links
their pages name, in calls, and while a long operation is polled, wherever the service says
to ask. That holds of uses in any order, one after the other.
-/

namespace LakeAdmin

open Http Poller

variable {client : Client}

theorem keeps_habit : client.Habit fun _ => client.Keeps where
  returns := keeps_pure
  fails _ := keeps_throw _
  bind := keeps_bind
  notes := keeps_note
  sleeps := keeps_sleep
  reads _ := keeps_send client _ _ _ _
  follows _ := keeps_fetchNext client _

/-- Waiting is discreet, wherever the answer to the first request points. -/
theorem keeps_wait (initial : Response) (resource : Option String) :
    client.Keeps (wait client initial resource) := keeps_habit.wait initial resource

/-! ## Operations -/

theorem keeps_call (operation : CallOperation) (identity : Option Identity)
    (parameters : Parameters) (location : Option String) :
    client.Keeps (client.call operation identity parameters location) := by
  rw [call_submit]
  exact keeps_habit.submit (fun _ => keeps_throw) (fun _ _ => keeps_send client _ _ _ _)
    (fun _ _ => keeps_ofExcept _ _) _ _

theorem keeps_runLong (operation : LongOperation) (identity : Option Identity)
    (parameters : Parameters) : client.Keeps (client.runLong operation identity parameters) :=
  keeps_habit.runLong (fun _ => keeps_throw) operation (fun _ _ => keeps_send client _ _ _ _)
    identity parameters

/-! ## Walks -/

def Client.KeepsPages (client : Client) (fetch : PageSource World Failure Resource) : Prop :=
  ∀ token, client.Keeps (fetch token : Action (Page Resource))

theorem list_keeps {operation : ListOperation} {identity : Option Identity}
    {query : Option QueryOptions} {pager : Pager World Failure Resource}
    (h : client.list operation identity query = .ok pager) : client.KeepsPages pager.fetch := by
  obtain ⟨path, -, rfl⟩ := list_made h
  intro token
  cases token with
  | none => exact keeps_bind (keeps_send client _ _ _ _) fun response => keeps_ofExcept _ _
  | some link => exact keeps_bind (keeps_follow client link) fun response => keeps_ofExcept _ _

/-- Behind the fetch of its first page, a walk does what its rest does. -/
theorem walkFrom_behind {α : Type} (pager : Pager World Failure Resource)
    (emit : Page Resource → List α) (leave seen : Nat) (demand : Option Nat)
    (token : Option Wide) (world : World)
    (rest : ∀ seen demand token world, ∃ done,
      (pager.walkFrom emit leave seen demand token world).2.events = world.events ++ done ∧
        client.Discreet done) :
    ∃ done, (pager.walkFrom emit (leave + 1) seen demand token world).2.events =
        (pager.fetch token world).2.events ++ done ∧ client.Discreet done := by
  have ended (after : World) : ∃ done, after.events = after.events ++ done ∧ client.Discreet done :=
    ⟨[], (List.append_nil _).symm, .nil⟩
  have stretch := pager.walkFrom_stretch emit leave seen demand token world
  generalize pager.walkFrom emit (leave + 1) seen demand token world = walked at stretch ⊢
  cases stretch with
  | failed fetched | enough fetched | last fetched =>
    rw [fetched]
    exact ended _
  | @next page link _ after _ fetched _ _ _ behind =>
    have further := rest (seen + 1) (demand.map (· - (emit page).length)) (some link) after
    rw [behind] at further
    rwa [fetched]

/-- A walk is discreet from any page on. The induction is on the leave to fetch. -/
theorem walkFrom_keeps {α : Type} {pager : Pager World Failure Resource}
    (h : client.KeepsPages pager.fetch) (emit : Page Resource → List α) (leave seen : Nat)
    (demand : Option Nat) (token : Option Wide) (world : World) :
    ∃ done, (pager.walkFrom emit leave seen demand token world).2.events = world.events ++ done ∧
      client.Discreet done := by
  induction leave generalizing seen demand token world with
  | zero => exact ⟨[], (List.append_nil _).symm, .nil⟩
  | succ leave ih =>
    obtain ⟨first, fetched, discreet⟩ := h token world
    obtain ⟨second, behind, discreet'⟩ :=
      walkFrom_behind pager emit leave seen demand token world ih
    refine ⟨first ++ second, ?_, discreet_append discreet discreet'⟩
    have same : (pager.fetch token world).2.events = world.events ++ first := fetched
    rw [behind, same, List.append_assoc]

theorem walk_keeps {α : Type} {pager : Pager World Failure Resource}
    (h : client.KeepsPages pager.fetch) (emit : Page Resource → List α) (leave : Nat)
    (demand : Option Nat) (token : Option Wide) (world : World) :
    ∃ done, (pager.walk emit leave demand token world).2.events = world.events ++ done ∧
      client.Discreet done := by
  unfold Pager.walk
  split
  · exact ⟨[], (List.append_nil _).symm, .nil⟩
  · exact walkFrom_keeps h emit leave 0 demand _ world

/-! ## All uses -/

/-- Uses of a client, one after the other, and what becomes of a world with them. -/
inductive Client.Runs (client : Client) : World → World → Prop
  | idle {world : World} : Client.Runs client world world
  | walk {before world : World} {α : Type} {operation : ListOperation}
      {identity : Option Identity} {query : Option QueryOptions}
      {pager : Pager World Failure Resource} (earlier : Client.Runs client before world)
      (made : client.list operation identity query = .ok pager) (cap : Option Int)
      (emit : Page Resource → List α) (leave : Nat) (demand : Option Nat)
      (token : Option Wide) :
      Client.Runs client before
        (Pager.walk { pager with maxPages := cap } emit leave demand token world).2
  | page {before world : World} {operation : ListOperation} {identity : Option Identity}
      {query : Option QueryOptions} {pager : Pager World Failure Resource}
      (earlier : Client.Runs client before world)
      (made : client.list operation identity query = .ok pager) (token : Option Wide) :
      Client.Runs client before (pager.fetchPage token world).2
  | call {before world : World} (earlier : Client.Runs client before world)
      (operation : CallOperation) (identity : Option Identity) (parameters : Parameters)
      (location : Option String) :
      Client.Runs client before ((client.call operation identity parameters location).run world).2
  | long {before world : World} (earlier : Client.Runs client before world)
      (operation : LongOperation) (identity : Option Identity) (parameters : Parameters) :
      Client.Runs client before ((client.runLong operation identity parameters).run world).2
  | poll {before world : World} (earlier : Client.Runs client before world)
      (initial : Response) (resource : Option String) :
      Client.Runs client before ((wait client initial resource).run world).2
  | link {before world : World} (earlier : Client.Runs client before world) (token : String) :
      Client.Runs client before ((client.fetchNext token).run world).2

/-- Whatever a client is used for, and whatever the service answers, each request carries a
token only as far as it is guarded, and tokens are looked for on behalf of the own host
only. -/
theorem runs_discreet {before after : World} (h : client.Runs before after) :
    ∃ done, after.events = before.events ++ done ∧ client.Discreet done := by
  have further {before world after : World}
      (earlier : ∃ done, world.events = before.events ++ done ∧ client.Discreet done)
      (next : ∃ done, after.events = world.events ++ done ∧ client.Discreet done) :
      ∃ done, after.events = before.events ++ done ∧ client.Discreet done := by
    obtain ⟨first, front, discreet⟩ := earlier
    obtain ⟨second, behind, discreet'⟩ := next
    refine ⟨first ++ second, ?_, discreet_append discreet discreet'⟩
    rw [behind, front, List.append_assoc]
  induction h with
  | idle => exact ⟨[], (List.append_nil _).symm, .nil⟩
  | walk earlier made cap emit leave demand token ih =>
    rename_i pager
    have keeps : client.KeepsPages pager.fetch := list_keeps made
    have capped : client.KeepsPages (Pager.fetch { pager with maxPages := cap }) := keeps
    exact further ih (walk_keeps capped emit leave demand token _)
  | page earlier made token ih => exact further ih (list_keeps made _ _)
  | call earlier operation identity parameters location ih =>
    exact further ih (keeps_call operation identity parameters location _)
  | long earlier operation identity parameters ih =>
    exact further ih (keeps_runLong operation identity parameters _)
  | poll earlier initial resource ih => exact further ih (keeps_wait initial resource _)
  | link earlier token ih => exact further ih (keeps_fetchNext client token _)

/-- A link that is not absolute, and whose host is lost when it is resolved: the check
resolves it once more and finds the own host, but the request names none and carries the
token all the same. -/
theorem runs_discreet_hostless :
    ∃ client : Client, client.baseUrl = "https://arm.test/" ∧
      client.tokens = some (.fixed "T") ∧
      ∃ done request,
        ((client.fetchNext "http:////////arm.test/x").run (World.fresh [] 1000 none)).2.events =
            done ∧
          client.Discreet done ∧ .sent request ∈ done ∧ request.CarriesToken ∧
            ¬client.HasHost request.url := by
  refine ⟨{ Client.ofSettings .standard with
    baseUrl := "https://arm.test/", tokens := some (.fixed "T") }, rfl, rfl, ?_⟩
  obtain ⟨done, events, discreet⟩ := runs_discreet
    (.link .idle "http:////////arm.test/x" : Client.Runs
      { Client.ofSettings .standard with
        baseUrl := "https://arm.test/", tokens := some (.fixed "T") }
      (World.fresh [] 1000 none) _)
  have sent : (((Client.fetchNext
      { Client.ofSettings .standard with
        baseUrl := "https://arm.test/", tokens := some (.fixed "T") }
      "http:////////arm.test/x").run (World.fresh [] 1000 none)).2.requests.any fun request =>
        request.url.host = "" && request.headers.get? "Authorization" = some "Bearer T") =
          true := by decide +kernel
  have named : ((Url.parse "https://arm.test/").toOption.any fun base =>
      (Http.hostName base).toOption ≠ some "") = true := by decide +kernel
  unfold World.requests at sent
  rw [events] at sent
  obtain ⟨request, hr, found⟩ := List.any_eq_true.mp sent
  obtain ⟨event, hm, same⟩ := List.mem_filterMap.mp hr
  cases event with
  | slept seconds => cases same
  | noted line => cases same
  | sent asked =>
    cases same
    simp only [Bool.and_eq_true, decide_eq_true_eq] at found
    obtain ⟨hostless, carried⟩ := found
    refine ⟨_, request, events, discreet, hm, ⟨.str "T", carried⟩, ?_⟩
    rintro ⟨base, host, hb, hh, ho⟩
    have empty : host = "" := by
      unfold Http.hostName Url.hostName at hh
      rw [hostless] at hh
      exact (Except.ok.inj hh).symm
    have read : Url.parse "https://arm.test/" = .ok base := hb
    rw [read] at named
    simp [Except.toOption, ho, empty] at named

end LakeAdmin
