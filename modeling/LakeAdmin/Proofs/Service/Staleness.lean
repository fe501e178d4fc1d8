import LakeAdmin.Proofs.Service.Caching
import LakeAdmin.Proofs.Service.Hearing
import LakeAdmin.Proofs.Service.Polling

/-!
Lists behind a change. An account that was created or deleted to the end makes all lists of its
subscription stale: what is served afterwards was got from the service afterwards. A change
that the service accepted but that failed later, while it was waited for or read back, drops
nothing, and every list that was served before it still is.
-/

namespace LakeAdmin.Explorer

open Http Text Url

/-! ## Changes -/

inductive Change where
  | create (identity : Identity) (parameters : Parameters)
  | delete (identity : Identity)

namespace Change

def identity : Change → Identity
  | create identity _ => identity
  | delete identity => identity

def operation : Change → LongOperation
  | create _ _ => .createAccount
  | delete _ => .deleteAccount

def parameters : Change → Parameters
  | create _ parameters => parameters
  | delete _ => .plain .null

def step : Change → Step
  | create identity parameters => .create identity parameters
  | delete identity => .delete identity

def carryOut (client : Client) : Change → Action Unit
  | create identity parameters => do
    let _ ← createAccount client identity parameters
  | delete identity => deleteAccount client identity

def firstAnswer (client : Client) (change : Change) : Action Response := do
  let body ← Action.ofExcept id (change.operation.bodyRule.body change.parameters)
  let path ← Action.ofExcept id
    (client.operationPath Path.account (some change.identity) none [])
  client.send change.operation.method path [] body []

/-- The service has accepted a change: its first answer has a status that means success. -/
def Accepted (client : Client) (change : Change) (world : World) : Prop :=
  ∃ initial, ((change.firstAnswer client).run world).1 = .ok initial ∧
    initial.status ∈ change.operation.success

end Change

/-- A list is served from the cache: it is had without a request. -/
def Serves (client : Client) (world : World) (subscription : Option String)
    (query : Option QueryOptions) (accounts : List Resource) : Prop :=
  ∃ after, (listAccounts client subscription false query).run world = (.ok accounts, after) ∧
    after.requests = world.requests

variable {client : Client} {change : Change} {world after : World} {ttl : Option Binary64}
  {moments later : List Moment} {fallen moment : Moment} {sub : Option String}
  {query : Option QueryOptions} {accounts : List Resource}

/-! ## What comes of a change -/

/-- A change that came to its end is an operation that did, with the lists dropped behind it. -/
theorem carryOut_long {done : Unit}
    (ran : (change.carryOut client).run world = (.ok done, after)) :
    ∃ answer ready, (client.runLong change.operation (some change.identity)
        change.parameters).run world = (.ok answer, ready) ∧
      after = { ready with
        lists := dropLists (subscriptionOf client change.identity.subscription) ready.lists } := by
  cases change with
  | create identity parameters =>
    obtain ⟨created, _, ran, rest⟩ := Action.run_bind_ok_iff.mp ran
    cases rest
    obtain ⟨_, ready, long, ran⟩ := Action.run_bind_ok_iff.mp ran
    cases ran
    exact ⟨_, ready, long, rfl⟩
  | delete identity =>
    obtain ⟨_, ready, long, ran⟩ := Action.run_bind_ok_iff.mp ran
    cases ran
    exact ⟨_, ready, long, rfl⟩

/-- A change that came to its end was accepted. -/
theorem done_accepted {done : Unit}
    (ran : (change.carryOut client).run world = (.ok done, after)) :
    change.Accepted client world := by
  obtain ⟨answer, _, ran, -⟩ := carryOut_long ran
  rw [runLong_submit] at ran
  obtain ⟨body, path, initial, _, made, placed, sent, ran⟩ := submit_ok ran
  obtain ⟨_, _, success, -⟩ := Action.run_bind_ok_iff.mp ran
  rw [Action.run_ofExcept] at success
  refine ⟨initial, ?_, Response.requireSuccess_ok (Prod.mk.inj success).1⟩
  unfold Change.firstAnswer
  rw [made, placed, Action.run_bind_ok (Action.run_ofExcept_ok _ _ _),
    Action.run_bind_ok (Action.run_ofExcept_ok _ _ _), sent]

/-- A change leaves the cache alone, or drops the lists of its subscription. -/
theorem carryOut_changed (client : Client) (change : Change) (world : World) :
    Changed (subscriptionOf client change.identity.subscription) world
      ((change.carryOut client).run world).1 ((change.carryOut client).run world).2 := by
  cases change with
  | create identity parameters =>
    have changed := createAccount_changed client identity parameters world
    have whole : (Change.create identity parameters).carryOut client =
      createAccount client identity parameters >>= fun _ => pure () := rfl
    rw [whole, Action.run_bind]
    rcases ran : (createAccount client identity parameters).run world with ⟨result, after⟩
    rw [ran] at changed
    cases changed with
    | failed spared => exact .failed spared
    | done later lists => exact .done later lists
  | delete identity => exact deleteAccount_changed client identity world

/-- A change that came to its end makes the lists of its subscription stale. -/
theorem done_drops {done : Unit}
    (ran : (change.carryOut client).run world = (.ok done, after)) :
    Moment.Drops client ⟨change.step, world⟩
      (subscriptionOf client change.identity.subscription) := by
  cases change with
  | create identity parameters =>
    obtain ⟨created, _, ran, -⟩ := Action.run_bind_ok_iff.mp ran
    exact .create ran
  | delete identity => exact .delete ran

/-! ## What is served -/

/-- Only what a read of the cache finds is had without a request. -/
theorem serves_iff {subscription : Option String} :
    Serves client world subscription query accounts ↔
      (world.lists.get world.clock (listKey (subscriptionOf client subscription) query)).1 =
        some accounts := by
  unfold Serves listAccounts
  dsimp only
  rw [if_neg Bool.false_ne_true, Action.run_bind_ok (lookUp_run _ world)]
  generalize subscriptionOf client subscription = sub
  cases read : (world.lists.get world.clock (listKey sub query)).1 with
  | some found =>
    constructor
    · rintro ⟨after, ran, -⟩
      cases ran
      rfl
    · intro same
      cases same
      exact ⟨_, rfl, rfl⟩
  | none =>
    constructor
    · rintro ⟨after, ran, same⟩
      have refreshed := refresh_refreshed client sub query { world with
        lists := (world.lists.get world.clock (listKey sub query)).2 }
      dsimp only at ran
      rw [ran] at refreshed
      cases refreshed with
      | stored later sent lists => exact absurd same sent
    · intro found
      cases found

/-- What spares the cache changes nothing of what is served, but for the time that passes. -/
theorem serves_spared (spared : World.Spared world after) (subscription : Option String)
    (query : Option QueryOptions) (accounts : List Resource) :
    Serves client (world.showing after.clock) subscription query accounts ↔
      Serves client after subscription query accounts := by
  rw [serves_iff, serves_iff, spared.lists]
  rfl

/-- What stands now was got after everything that made its subscription's lists stale. -/
theorem stands_behind (drops : fallen.Drops client sub)
    (stands : Stands client (moments ++ fallen :: later) sub query moment accounts) :
    moment ∈ later := by
  obtain ⟨earlier, rest, split, walked, quiet⟩ := stands
  have apart : fallen ≠ moment := by
    rintro rfl
    exact drops_unwalked drops walked
  rcases List.append_eq_append_iff.mp split with ⟨between, -, tail⟩ | ⟨between, -, tail⟩
  · cases between with
    | nil => exact absurd (List.head_eq_of_cons_eq tail) apart
    | cons first between =>
      rw [List.tail_eq_of_cons_eq tail]
      simp
  · cases between with
    | nil => exact absurd (List.head_eq_of_cons_eq tail).symm apart
    | cons first between =>
      have behind : fallen ∈ rest := by
        rw [List.tail_eq_of_cons_eq tail]
        simp
      exact absurd drops (quiet fallen behind).2

/-- A change that comes to its end was accepted by the service, and a list of its subscription
that is served at any time afterwards was got from the service afterwards. A change that fails,
be it accepted or not, leaves to be served what would be served by then without it. -/
theorem lists_after_change (client : Client) (change : Change) (world : World) :
    (∀ done after, (change.carryOut client).run world = (.ok done, after) →
      change.Accepted client world ∧
      ∀ ttl moments later final,
        Past client ttl (moments ++ ⟨change.step, world⟩ :: later) final →
        ∀ subscription query accounts,
          subscriptionOf client subscription =
            subscriptionOf client change.identity.subscription →
          Serves client final subscription query accounts →
          ∃ moment ∈ later,
            moment.Walked client (subscriptionOf client subscription) query accounts) ∧
    ∀ failure after, (change.carryOut client).run world = (.error failure, after) →
      ∀ subscription query accounts,
        Serves client (world.showing after.clock) subscription query accounts ↔
          Serves client after subscription query accounts := by
  constructor
  · intro done after ran
    refine ⟨done_accepted ran, ?_⟩
    intro ttl moments later final past subscription query accounts same serves
    obtain ⟨moment, stands⟩ := held_stands past (serves_iff.mp serves)
    have drops := done_drops ran
    rw [← same] at drops
    exact ⟨moment, stands_behind drops stands, stands_walked stands⟩
  · intro failure after ran
    have changed := carryOut_changed client change world
    rw [ran] at changed
    cases changed with
    | failed spared => exact serves_spared spared

/-- Without a reply, no place says that an operation is done. -/
theorem polling_starved {protocol : Poller.Protocol} {url : String} {left : Nat}
    {last : Response} {deeds : List Deed} {result : Except Failure Response} {rest : List Reply}
    (h : client.Polling protocol url left last [] deeds result rest) :
    ∃ failure, result = .error failure := by
  have none {request : Request} {queue : List Reply} {response : Response}
      (leaves : client.Leaves [] queue) : outcome request queue ≠ .ok response := by
    have empty : queue = [] := List.eq_nil_of_length_eq_zero (Nat.le_zero.mp (leaves_length leaves))
    subst empty
    exact nofun
  cases h with
  | done leaves asks answer => exact absurd answer (none leaves)
  | pending leaves asks answer => exact absurd answer (none leaves)
  | _ => exact ⟨_, rfl⟩

theorem past_list {subscription : Option String} {refreshed : Bool}
    {result : Except Failure (List Resource)} (past : Past client ttl moments world)
    (ran : (listAccounts client subscription refreshed query).run world = (result, after)) :
    Past client ttl (moments ++ [⟨.list subscription refreshed query, world⟩]) after := by
  have stepped := past.step (.list subscription refreshed query)
  unfold Step.after at stepped
  dsimp only at stepped
  rwa [ran] at stepped

theorem answer_accepted {body : Json} {path : String} {initial : Response}
    (made : change.operation.bodyRule.body change.parameters = .ok body)
    (placed : client.operationPath Path.account (some change.identity) none [] = .ok path)
    (sent : (client.send change.operation.method path [] body []).run world = (.ok initial, after))
    (success : initial.status ∈ change.operation.success) : change.Accepted client world := by
  refine ⟨initial, ?_, success⟩
  unfold Change.firstAnswer
  rw [made, placed, Action.run_bind_ok (Action.run_ofExcept_ok _ _ _),
    Action.run_bind_ok (Action.run_ofExcept_ok _ _ _), sent]

/-- A deletion that is accepted, and of which nothing more is heard, fails. -/
theorem delete_starved {identity : Identity} {path url : String} {initial : Response}
    {protocol : Poller.Protocol}
    (placed : client.operationPath Path.account (some identity) none [] = .ok path)
    (sent : (client.send "DELETE" path [] .null []).run world = (.ok initial, after))
    (success : initial.status ∈ LongOperation.deleteAccount.success)
    (place : Poller.placeOf? initial = some (protocol, url)) (silent : after.replies = []) :
    ∃ failure left, (deleteAccount client identity).run world = (.error failure, left) := by
  have unwritten : LongOperation.deleteAccount.bodyRule.body (.plain .null) = .ok .null := rfl
  have long := runLong_accepted unwritten placed sent success place
  obtain ⟨deeds, polling, -⟩ := poll_polling client protocol (Poller.placeOf_ne place)
    client.maxPolls.toNat 1 initial after
  rw [silent] at polling
  obtain ⟨failure, starved⟩ := polling_starved polling
  have failed := long.trans (Action.run_bind_error (Prod.ext starved rfl))
  exact ⟨failure, _, Action.run_bind_error failed⟩

/-- A deletion that the service accepts and then says nothing more of. The list with the
account stays. -/
theorem lists_after_change_silent :
    ∃ client moments world change failure after accounts,
      Past client none moments world ∧ Change.Accepted client change world ∧
      (change.carryOut client).run world = (.error failure, after) ∧
      Serves client after change.identity.subscription none accounts := by
  let client := Client.ofSettings .standard
  let listed : Response := ⟨200, [], Utf8.encode "\x7b\"value\":[]\x7d", none, none, 100⟩
  let accepted : Response := ⟨202, [("Location", "/o")], [], none, none, 100⟩
  let start := World.fresh [.response listed, .response accepted] (.finite 1) none
  -- The list is got from the service and stored.
  obtain ⟨page, good, ends⟩ := only_page
    (show listed.resources.toOption.map Page.continuation = some none by decide +kernel)
  obtain ⟨-, world, -, refreshed, left, lists⟩ := standard_stored
    (show start.replies = .response listed :: [.response accepted] from rfl)
    good ends
  have ran : (listAccounts client (some "s") false none).run start = (.ok page.items, world) :=
    (listAccounts_missed client (some "s") rfl).trans refreshed
  have past : Past client none [⟨.list (some "s") false none, start⟩] world :=
    past_list (.start rfl ⟨fun _ => 1, fun _ _ _ => Int.le_refl _, fun _ => rfl⟩) ran
  have serves (clock : Binary64) :
      Serves client (world.showing clock) (some "s") none page.items := by
    rw [serves_iff]
    show (world.lists.get clock _).1 = _
    rw [lists]
    rfl
  -- The deletion is accepted, and no poll is answered.
  let change := Change.delete ⟨some "s", some "g", some "a", none, none⟩
  obtain ⟨place, found⟩ : ∃ path,
      client.operationPath Path.account (some change.identity) none [] = .ok path := ⟨_, rfl⟩
  have reaches := standard_place (by decide) (by decide) found (by decide +kernel)
  obtain ⟨again, ready, sent, none⟩ := send_answered reaches standard_open
    (show Client.bodyOf .null = .ok .none from rfl) "DELETE" [] left rfl
  have reply : Poller.placeOf? accepted = some (.location, "/o") := by decide +kernel
  have success : (202 : Int) ∈ LongOperation.deleteAccount.success := by decide
  obtain ⟨failure, after, failed⟩ := delete_starved found sent success reply none
  exact ⟨client, _, world, change, failure, after, page.items, past,
    answer_accepted rfl found sent success, failed,
    ((lists_after_change client change world).2 failure after failed _ _ _).mp
      (serves after.clock)⟩

end LakeAdmin.Explorer
