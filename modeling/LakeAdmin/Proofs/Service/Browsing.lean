import LakeAdmin.Proofs.ListCache
import LakeAdmin.Proofs.Service.Listing
import LakeAdmin.Proofs.Service.Sparing
import LakeAdmin.Service.Explorer

/-!
What browsing does to the cache. A list comes from the cache, without a request, or from the
service, which takes at least one; then it is stored. What fails stores nothing. Creating and
deleting accounts drops the lists of their subscription once the service has agreed, and no
others.
-/

namespace LakeAdmin.Explorer

open Http

/-! ## Keys -/

theorem same_ofText? (a b : Option String) :
    Json.same (Json.ofText? a) (Json.ofText? b) = decide (a = b) := by
  rw [Bool.eq_iff_iff]
  cases a <;> cases b <;> simp [Json.ofText?, Json.same]

theorem same_query (a b : Option QueryOptions) :
    CacheKey.same (a.elim (.plain .null) .query) (b.elim (.plain .null) .query) =
      decide (a = b) := by
  rw [Bool.eq_iff_iff]
  cases a <;> cases b <;> simp [CacheKey.same, Json.same]

theorem same_accountsKey : CacheKey.same accountsKey accountsKey = true := by
  simp [accountsKey, CacheKey.same, Json.same]

/-- The keys of lists are one if subscription and options are. Options that say nothing are
not the same as none. -/
theorem listKey_beq (sub sub' : Option String) (query query' : Option QueryOptions) :
    (listKey sub query == listKey sub' query') = decide (sub = sub' ∧ query = query') := by
  show CacheKey.same (listKey sub query) (listKey sub' query') = _
  unfold listKey subscriptionKey
  simp only [List.cons_append, List.nil_append, CacheKey.same, CacheKey.sameParts,
    same_accountsKey, same_ofText?, same_query, Bool.true_and, Bool.and_true, Bool.decide_and]

theorem listKey_beginsWith (sub sub' : Option String) (query : Option QueryOptions) :
    (listKey sub query).beginsWith (subscriptionKey sub') = decide (sub' = sub) := by
  unfold listKey subscriptionKey
  simp only [CacheKey.beginsWith, List.cons_append, List.nil_append, List.length_cons,
    List.length_nil, List.take, CacheKey.sameParts, same_accountsKey, Bool.true_and,
    Bool.and_true]
  rw [CacheKey.same, same_ofText?]

def IsListKey (key : CacheKey) : Prop := ∃ sub query, key = listKey sub query

theorem isListKey (sub : Option String) (query : Option QueryOptions) :
    IsListKey (listKey sub query) := ⟨sub, query, rfl⟩

theorem listKeys_apart : CacheKey.ToldApart IsListKey := by
  rintro _ _ ⟨sub, query, rfl⟩ ⟨sub', query', rfl⟩
  rw [listKey_beq, decide_eq_true_eq]
  constructor
  · rintro ⟨rfl, rfl⟩
    rfl
  · intro same
    have self := listKey_beq sub sub' query query'
    rw [same, listKey_beq] at self
    simpa using self.symm

theorem listKey_injective {sub sub' : Option String} {query query' : Option QueryOptions}
    (h : listKey sub query = listKey sub' query') : sub = sub' ∧ query = query' := by
  have same := (listKeys_apart _ _ (isListKey sub query) (isListKey sub' query')).mpr h
  rwa [listKey_beq, decide_eq_true_eq] at same

/-! ## Walks -/

def requestOf : Deed → Option Request
  | .asked request => some request
  | .slept _ => none

/-- The requests to the service are the requests without those for tokens. -/
theorem deeds_requests (world : World) :
    world.deeds.filterMap requestOf = world.requests.filter fun request => !request.body.isForm := by
  unfold World.deeds World.requests
  rw [List.filterMap_filterMap, List.filter_filterMap]
  refine congrArg (List.filterMap · world.events) (funext fun event => ?_)
  cases event with
  | sent request => cases h : request.body.isForm <;> simp [Event.deed?, requestOf, Option.filter_some, h]
  | slept seconds => rfl
  | noted line => rfl

/-- A listing to the end asks for its page first. -/
theorem listing_asks {client : Client} {operation : ListOperation} {path : String}
    {query : Option QueryOptions} {token : Option Wide} {replies : List Reply}
    {steps : List ListingStep} {ending : WalkEnd Failure}
    (h : client.Listing operation path query none token replies steps ending)
    (finished : ∀ failure, ending ≠ .failed failure) :
    ∃ request deeds, client.AsksForPage operation path query token request ∧
      steps.filterMap ListingStep.deed? = .asked request :: deeds := by
  cases h with
  | unsent more why => exact absurd rfl (finished _)
  | failed more leaves asks bad => exact absurd rfl (finished _)
  | last leaves asks good wanted ends => exact ⟨_, _, asks, rfl⟩
  | next leaves asks good wanted link_eq rest => exact ⟨_, _, asks, rfl⟩

theorem result_unfailed {ε α : Type} {walk : Walk ε α} {items : List α}
    (h : walk.result = .ok items) (error : ε) : walk.ending ≠ .failed error := by
  intro failed
  unfold Walk.result at h
  rw [failed] at h
  cases h

/-- To have all items of a list, its first page is asked for before anything else. -/
theorem collect_first {client : Client} {operation : ListOperation} {path : String}
    {query : Option QueryOptions} {world after : World} {items : List Resource}
    (ran : (collect ⟨client.fetchPage operation path (queryParams query), none⟩).run world =
      (.ok items, after)) :
    ∃ request rest,
      client.Asks operation.method path (some (client.listParams query)) .null request ∧
      after.deeds = world.deeds ++ .asked request :: rest := by
  obtain ⟨steps, listing, -, deeds⟩ := walkFrom_listing client operation path query world.leave 0
    none none world (Nat.lt_succ_self _) nofun nofun
  have result : Walk.result (Pager.walkFrom _ Page.items world.leave 0 none none world).1 =
      .ok items := congrArg Prod.fst ran
  have left : (Pager.walkFrom _ Page.items world.leave 0 none none world).2 = after :=
    congrArg Prod.snd ran
  obtain ⟨request, rest, asks, asked⟩ := listing_asks listing (result_unfailed result)
  exact ⟨request, rest, asks, by rw [← left, deeds, asked]⟩

/-- All items of a list cannot be had without a request. -/
theorem collect_sends {client : Client} {operation : ListOperation} {identity : Option Identity}
    {query : Option QueryOptions} {pager : Pager World Failure Resource}
    (made : client.list operation identity query = .ok pager) {world after : World}
    {items : List Resource} (ran : (collect pager).run world = (.ok items, after)) :
    after.requests ≠ world.requests := by
  obtain ⟨path, -, rfl⟩ := list_made made
  obtain ⟨request, rest, -, deeds⟩ := collect_first ran
  intro same
  have before := deeds_requests world
  have later := deeds_requests after
  rw [same, ← before, deeds, List.filterMap_append] at later
  have := congrArg List.length later
  simp [requestOf] at this

theorem collect_spares {client : Client} {operation : ListOperation} {identity : Option Identity}
    {query : Option QueryOptions} {pager : Pager World Failure Resource}
    (made : client.list operation identity query = .ok pager) :
    Action.Spares (collect pager) := by
  obtain ⟨path, -, rfl⟩ := list_made made
  intro world
  show World.Spared world (Pager.walk _ Page.items world.leave none none world).2
  exact walkFrom_spares (spares_fetchPage client operation path (queryParams query))
    Page.items world.leave 0 none none world

/-! ## Lists -/

/-- What comes of walking the service for a list, and what becomes of the world: a failure
leaves the cache alone, and a list that took a request is stored, at the time at which it was
all there. -/
inductive Refreshed (sub : Option String) (query : Option QueryOptions) (world : World) :
    Except Failure (List Resource) → World → Prop
  | failed {failure : Failure} {after : World} (spared : World.Spared world after) :
      Refreshed sub query world (.error failure) after
  | stored {accounts : List Resource} {after : World} (later : World.Later world after)
      (sent : after.requests ≠ world.requests)
      (lists : after.lists =
        world.lists.put after.clock (listKey sub query) (some accounts)) :
      Refreshed sub query world (.ok accounts) after

theorem refresh_refreshed (client : Client) (sub : Option String) (query : Option QueryOptions)
    (world : World) :
    Refreshed sub query world ((refresh client sub query).run world).1
      ((refresh client sub query).run world).2 := by
  unfold refresh
  dsimp only
  cases made : client.list .accounts (some { Identity.empty with subscription := sub }) query with
  | error failure =>
    rw [Action.run_bind_error (Action.run_ofExcept_error id failure world)]
    exact .failed (spared_refl world)
  | ok pager =>
    rw [Action.run_bind_ok (Action.run_ofExcept_ok id pager world)]
    have spared := collect_spares made world
    rcases ran : (collect pager).run world with ⟨failure | accounts, after⟩
    · rw [Action.run_bind_error ran]
      rw [ran] at spared
      exact .failed spared
    · rw [Action.run_bind_ok ran, Action.run_bind_ok (Action.run_note _ after),
        Action.run_bind_ok (Action.run_modify _ _)]
      rw [ran] at spared
      have lists := spared.lists
      have noted := spared.toLater.trans
        (later_record after (.noted (.listed accounts.length sub)))
      dsimp only at lists
      refine .stored ⟨noted.time, noted.events⟩ ?_ ?_
      · intro same
        exact collect_sends made ran ((quiet_noted after _).requests.symm.trans same)
      · rw [← lists]
        rfl

/-- What comes of asking for a list, and what becomes of the world. Before the service is
walked, nothing may go from the cache but what is too old. -/
inductive Listed (sub : Option String) (query : Option QueryOptions) (world : World) :
    Except Failure (List Resource) → World → Prop
  | held {accounts : List Resource} {entry : CacheEntry (List Resource)}
      (found : world.lists.find? (listKey sub query) = some entry)
      (fresh : ListCache.Fresh world.lists.ttl world.clock entry.storedAt)
      (value : entry.value = some accounts) :
      Listed sub query world (.ok accounts) world
  | failed {failure : Failure} {after : World} (later : World.Later world after)
      (trimmed : ListCache.Trimmed IsListKey world.clock world.lists after.lists) :
      Listed sub query world (.error failure) after
  | stored {accounts : List Resource} {after : World} {lists : ListCache (List Resource)}
      (later : World.Later world after) (sent : after.requests ≠ world.requests)
      (trimmed : ListCache.Trimmed IsListKey world.clock world.lists lists)
      (put : after.lists = lists.put after.clock (listKey sub query) (some accounts)) :
      Listed sub query world (.ok accounts) after

theorem lookUp_run (key : CacheKey) (world : World) :
    (lookUp key).run world = (.ok (world.lists.get world.clock key).1,
      { world with lists := (world.lists.get world.clock key).2 }) := rfl

/-- A walk behind a cache from which nothing has gone but what was too old. -/
theorem refreshed_listed {sub : Option String} {query : Option QueryOptions}
    {world after : World} {lists : ListCache (List Resource)}
    {result : Except Failure (List Resource)}
    (trimmed : ListCache.Trimmed IsListKey world.clock world.lists lists)
    (h : Refreshed sub query { world with lists := lists } result after) :
    Listed sub query world result after := by
  cases h with
  | failed spared =>
    refine .failed ⟨spared.time, spared.events⟩ ?_
    rwa [spared.lists]
  | stored later sent put => exact .stored ⟨later.time, later.events⟩ sent trimmed put

/-- A list that a look at the cache finds is taken from there. -/
theorem listAccounts_found (client : Client) (subscription : Option String)
    {query : Option QueryOptions} {world : World} {accounts : List Resource}
    (found : (world.lists.get world.clock
      (listKey (subscriptionOf client subscription) query)).1 = some accounts) :
    (listAccounts client subscription false query).run world =
      (.ok accounts, { world with
        lists := (world.lists.get world.clock
          (listKey (subscriptionOf client subscription) query)).2 }) := by
  unfold listAccounts
  dsimp only
  rw [if_neg Bool.false_ne_true, Action.run_bind_ok (lookUp_run _ world), found]
  rfl

/-- A list that the cache does not hold is got from the service, as is one that is asked for
afresh. -/
theorem listAccounts_missed (client : Client) (subscription : Option String)
    {query : Option QueryOptions} {world : World}
    (absent : (world.lists.get world.clock
      (listKey (subscriptionOf client subscription) query)).1 = none) :
    (listAccounts client subscription false query).run world =
      (refresh client (subscriptionOf client subscription) query).run { world with
        lists := (world.lists.get world.clock
          (listKey (subscriptionOf client subscription) query)).2 } := by
  unfold listAccounts
  dsimp only
  rw [if_neg Bool.false_ne_true, Action.run_bind_ok (lookUp_run _ world), absent]

theorem listAccounts_refreshed (client : Client) (subscription : Option String)
    (query : Option QueryOptions) :
    listAccounts client subscription true query =
      refresh client (subscriptionOf client subscription) query := rfl

theorem listAccounts_listed (client : Client) (subscription : Option String) (refreshed : Bool)
    (query : Option QueryOptions) {world : World} (holds : world.lists.Holds IsListKey) :
    Listed (subscriptionOf client subscription) query world
      ((listAccounts client subscription refreshed query).run world).1
      ((listAccounts client subscription refreshed query).run world).2 := by
  cases refreshed with
  | true =>
    rw [listAccounts_refreshed]
    exact refreshed_listed (ListCache.trimmed_refl IsListKey world.clock world.lists)
      (refresh_refreshed client _ query world)
  | false =>
    cases read : (world.lists.get world.clock
        (listKey (subscriptionOf client subscription) query)).1 with
    | none =>
      have trimmed := ListCache.get_trimmed listKeys_apart.lawful holds
        (isListKey (subscriptionOf client subscription) query) world.clock
      rw [listAccounts_missed client subscription read]
      exact refreshed_listed trimmed (refresh_refreshed client _ query _)
    | some accounts =>
      obtain ⟨entry, found, fresh, value⟩ := ListCache.get_some.mp read
      rw [listAccounts_found client subscription read, ListCache.get_present found fresh]
      exact Listed.held found
        ((ListCache.isExpired_fresh world.lists world.clock entry).mp fresh) value

/-- A list that the cache holds is taken from there, and nothing changes. -/
theorem listAccounts_held (client : Client) (subscription : Option String)
    {query : Option QueryOptions} {world : World} {entry : CacheEntry (List Resource)}
    {accounts : List Resource}
    (found : world.lists.find? (listKey (subscriptionOf client subscription) query) = some entry)
    (fresh : ListCache.Fresh world.lists.ttl world.clock entry.storedAt)
    (value : entry.value = some accounts) :
    (listAccounts client subscription false query).run world = (.ok accounts, world) := by
  have present := ListCache.get_present found
    ((ListCache.isExpired_fresh world.lists world.clock entry).mpr fresh)
  rw [listAccounts_found client subscription (by rw [present, value]), present]

/-! ## Changes -/

/-- A cache without the lists of a subscription. -/
def dropLists (sub : Option String) (lists : ListCache (List Resource)) :
    ListCache (List Resource) :=
  (lists.clearKeys (lists.keys.filter (·.beginsWith (subscriptionKey sub)))).2

theorem dropLists_ttl (sub : Option String) (lists : ListCache (List Resource)) :
    (dropLists sub lists).ttl = lists.ttl := ListCache.clearKeys_ttl lists _

theorem dropLists_holds {sub : Option String} {lists : ListCache (List Resource)}
    (holds : lists.Holds IsListKey) : (dropLists sub lists).Holds IsListKey :=
  ListCache.holds_sublist (ListCache.clearKeys_sublist lists _) holds

/-- No list of the subscription is left. -/
theorem dropLists_own {sub : Option String} {lists : ListCache (List Resource)}
    (holds : lists.Holds IsListKey) (query : Option QueryOptions) :
    (dropLists sub lists).find? (listKey sub query) = none := by
  unfold dropLists
  by_cases present : listKey sub query ∈ lists.keys
  · refine ListCache.find?_clearKeys_mem (List.mem_filter.mpr ⟨present, ?_⟩)
    rw [listKey_beginsWith, decide_eq_true_eq]
  · exact ListCache.find?_clearKeys_none
      (ListCache.find?_none_of_keys listKeys_apart holds (isListKey sub query) present)

/-- All lists of other subscriptions are. -/
theorem dropLists_other {sub other : Option String} {lists : ListCache (List Resource)}
    (holds : lists.Holds IsListKey) (h : other ≠ sub) (query : Option QueryOptions) :
    (dropLists sub lists).find? (listKey other query) = lists.find? (listKey other query) := by
  unfold dropLists
  have proper : ¬IsListKey (.plain .null) := by
    rintro ⟨_, _, null⟩
    cases null
  refine ListCache.find?_clearKeys_other listKeys_apart proper holds (isListKey other query)
    fun key hk => ?_
  obtain ⟨present, begins⟩ := List.mem_filter.mp hk
  obtain ⟨entry, hm, rfl⟩ := List.mem_map.mp present
  obtain ⟨sub', query', same⟩ := holds entry hm
  rw [same, listKey_beginsWith, decide_eq_true_eq] at begins
  refine ⟨holds entry hm, fun equal => h ?_⟩
  rw [same] at equal
  rw [begins]
  exact (listKey_injective equal).1

theorem invalidate_run (client : Client) (subscription : Option String) (world : World) :
    ∃ gone, (invalidate client subscription).run world = (.ok gone,
      { world with lists := dropLists (subscriptionOf client subscription) world.lists }) :=
  ⟨_, rfl⟩

/-- What comes of a change to the accounts of a subscription, and what becomes of the world:
a failure leaves the cache alone, and a success drops the lists of the subscription. -/
inductive Changed (sub : Option String) (world : World) {α : Type} :
    Except Failure α → World → Prop
  | failed {failure : Failure} {after : World} (spared : World.Spared world after) :
      Changed sub world (.error failure) after
  | done {result : α} {after : World} (later : World.Later world after)
      (lists : after.lists = dropLists sub world.lists) :
      Changed sub world (.ok result) after

/-- A change that spares the cache, with the dropping of lists behind it. -/
theorem invalidating_changed {α β : Type} {change : Action α} (spares : Action.Spares change)
    (client : Client) (subscription : Option String) (result : α → β) (world : World) :
    Changed (subscriptionOf client subscription) world
      ((do
        let done ← change
        let _ ← invalidate client subscription
        return result done : Action β).run world).1
      ((do
        let done ← change
        let _ ← invalidate client subscription
        return result done : Action β).run world).2 := by
  have spared := spares world
  rcases ran : change.run world with ⟨failure | done, after⟩
  · rw [Action.run_bind_error ran]
    rw [ran] at spared
    exact .failed spared
  · obtain ⟨gone, dropped⟩ := invalidate_run client subscription after
    rw [Action.run_bind_ok ran, Action.run_bind_ok dropped]
    rw [ran] at spared
    refine .done ⟨spared.time, spared.events⟩ ?_
    have lists := spared.lists
    dsimp only at lists
    rw [← lists]
    rfl

theorem createAccount_changed (client : Client) (identity : Identity) (parameters : Parameters)
    (world : World) :
    Changed (subscriptionOf client identity.subscription) world
      ((createAccount client identity parameters).run world).1
      ((createAccount client identity parameters).run world).2 :=
  invalidating_changed (spares_runLong client _ _ _) client identity.subscription id world

theorem deleteAccount_changed (client : Client) (identity : Identity) (world : World) :
    Changed (subscriptionOf client identity.subscription) world
      ((deleteAccount client identity).run world).1
      ((deleteAccount client identity).run world).2 :=
  invalidating_changed (spares_runLong client _ _ _) client identity.subscription (fun _ => ())
    world

end LakeAdmin.Explorer
