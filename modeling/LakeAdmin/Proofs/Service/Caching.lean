import LakeAdmin.Proofs.Service.Browsing
import LakeAdmin.Proofs.Service.Hearing

/-!
What the cache holds after any past. A list is taken from the cache exactly if a call before
got it from the service, nothing since has stored another list under its key or dropped it,
and not more than the time to live has passed. The cache is never looked into to say so: what
it holds is a function of the calls, of what came of them, and of the clock.
-/

namespace LakeAdmin.Explorer

open Http

/-! ## Pasts -/

inductive Step where
  | list (subscription : Option String) (refreshed : Bool) (query : Option QueryOptions)
  | create (identity : Identity) (parameters : Parameters)
  | delete (identity : Identity)
  | invalidate (subscription : Option String)
  | clear

def Step.after (client : Client) (world : World) : Step → World
  | list subscription refreshed query =>
    ((listAccounts client subscription refreshed query).run world).2
  | create identity parameters => ((createAccount client identity parameters).run world).2
  | delete identity => ((deleteAccount client identity).run world).2
  | invalidate subscription => ((Explorer.invalidate client subscription).run world).2
  | clear => (Explorer.clear.run world).2

/-- A step, and the world in which it was taken. -/
structure Moment where
  step : Step
  world : World

variable (client : Client)

/-- What the clock showed when a step was done. A list is stored at that time, when all of it is
there. -/
def Moment.doneAt (moment : Moment) : Binary64 := (moment.step.after client moment.world).clock

/-- A list was asked for and got from the service: it took a request. -/
inductive Moment.Walked :
    Moment → Option String → Option QueryOptions → List Resource → Prop
  | list {subscription : Option String} {refreshed : Bool} {query : Option QueryOptions}
      {accounts : List Resource} {world after : World}
      (ran : (listAccounts client subscription refreshed query).run world = (.ok accounts, after))
      (sent : after.requests ≠ world.requests) :
      Moment.Walked ⟨.list subscription refreshed query, world⟩
        (subscriptionOf client subscription) query accounts

/-- The lists of a subscription became stale: an account of it was created or deleted, its
lists were dropped by name, or everything was. -/
inductive Moment.Drops : Moment → Option String → Prop
  | create {identity : Identity} {parameters : Parameters} {created : Answer}
      {world after : World}
      (ran : (createAccount client identity parameters).run world = (.ok created, after)) :
      Moment.Drops ⟨.create identity parameters, world⟩
        (subscriptionOf client identity.subscription)
  | delete {identity : Identity} {world after : World}
      (ran : (deleteAccount client identity).run world = (.ok (), after)) :
      Moment.Drops ⟨.delete identity, world⟩ (subscriptionOf client identity.subscription)
  | invalidate (subscription : Option String) (world : World) :
      Moment.Drops ⟨.invalidate subscription, world⟩ (subscriptionOf client subscription)
  | clear (sub : Option String) (world : World) : Moment.Drops ⟨.clear, world⟩ sub

/-- The moment a list was got from the service, if nothing since has got another one for its
subscription and options or made it stale. -/
def Stands (moments : List Moment) (sub : Option String) (query : Option QueryOptions)
    (moment : Moment) (accounts : List Resource) : Prop :=
  ∃ earlier later, moments = earlier ++ moment :: later ∧
    moment.Walked client sub query accounts ∧
    ∀ other ∈ later, (∀ newer, ¬other.Walked client sub query newer) ∧ ¬other.Drops client sub

/-- The steps taken from an empty cache on, and the world they led to. The clock runs on while a
step is taken. Between two steps, time passes and anything else may happen, as long as nobody else
touches the cache and the clock is not set back. -/
inductive Past (ttl : Option Binary64) : List Moment → World → Prop
  | start {world : World} (lists : world.lists = .empty ttl) (runs : world.Runs) :
      Past ttl [] world
  | pass {moments : List Moment} {world later : World} {now next : Int}
      (past : Past ttl moments world) (lists : later.lists = world.lists) (runs : later.Runs)
      (clock : world.clock = .finite now) (shown : later.clock = .finite next)
      (order : now ≤ next) : Past ttl moments later
  | step {moments : List Moment} {world : World} (past : Past ttl moments world) (step : Step) :
      Past ttl (moments ++ [⟨step, world⟩]) (step.after client world)

variable {client} {ttl : Option Binary64} {moments : List Moment} {last moment : Moment}
  {sub : Option String} {query : Option QueryOptions} {accounts : List Resource}

theorem stands_nil : ¬Stands client [] sub query moment accounts := by
  rintro ⟨earlier, later, split, -⟩
  simp at split

theorem stands_mem (h : Stands client moments sub query moment accounts) : moment ∈ moments := by
  obtain ⟨earlier, later, rfl, -⟩ := h
  simp

/-- What stands after one more moment is what it got from the service, or what stood before and
did not fall with it. -/
theorem stands_snoc :
    Stands client (moments ++ [last]) sub query moment accounts ↔
      (moment = last ∧ last.Walked client sub query accounts) ∨
        (Stands client moments sub query moment accounts ∧
          (∀ newer, ¬last.Walked client sub query newer) ∧ ¬last.Drops client sub) := by
  constructor
  · rintro ⟨earlier, later, split, walked, quiet⟩
    rcases List.eq_nil_or_concat later with rfl | ⟨front, final, rfl⟩
    · obtain ⟨-, same⟩ := List.append_inj' split rfl
      cases same
      exact .inl ⟨rfl, walked⟩
    · rw [List.concat_eq_append] at split quiet
      have ends : moments ++ [last] = (earlier ++ moment :: front) ++ [final] := by
        rw [split, List.append_assoc, List.cons_append]
      obtain ⟨rest, same⟩ := List.append_inj' ends rfl
      cases same
      have before (other : Moment) (hm : other ∈ front) := quiet other (List.mem_append_left _ hm)
      exact .inr ⟨⟨earlier, front, rest, walked, before⟩, quiet last (by simp)⟩
  · rintro (⟨rfl, walked⟩ | ⟨⟨earlier, later, rfl, walked, quiet⟩, silent⟩)
    · exact ⟨moments, [], rfl, walked, fun other hm => absurd hm List.not_mem_nil⟩
    · refine ⟨earlier, later ++ [last], by simp, walked, fun other hm => ?_⟩
      rcases List.mem_append.mp hm with old | new
      · exact quiet other old
      · rw [List.mem_singleton.mp new]
        exact silent

/-! ## What a key has -/

/-- An entry holds what a moment got. -/
structure Records (client : Client) (entry : CacheEntry (List Resource)) (moment : Moment)
    (accounts : List Resource) : Prop where
  value : entry.value = some accounts
  storedAt : entry.storedAt = moment.doneAt client

/-- A cache agrees with the past about a key: what it holds there was got at a moment that
stands, and what was got at a moment that stands it holds, if it is not too old. -/
structure Agrees (client : Client) (moments : List Moment) (lists : ListCache (List Resource))
    (now : Binary64) (sub : Option String) (query : Option QueryOptions) : Prop where
  held : ∀ entry, lists.find? (listKey sub query) = some entry →
    ∃ moment accounts, Stands client moments sub query moment accounts ∧
      Records client entry moment accounts
  kept : ∀ moment accounts, Stands client moments sub query moment accounts →
    ListCache.Fresh lists.ttl now (moment.doneAt client) →
    ∃ entry, lists.find? (listKey sub query) = some entry ∧ Records client entry moment accounts

variable {lists after : ListCache (List Resource)} {now : Binary64}

theorem agrees_quiet (agrees : Agrees client moments lists now sub query)
    (unwalked : ∀ newer, ¬last.Walked client sub query newer) (undropped : ¬last.Drops client sub) :
    Agrees client (moments ++ [last]) lists now sub query where
  held entry found := by
    obtain ⟨moment, accounts, stands, records⟩ := agrees.held entry found
    exact ⟨moment, accounts, stands_snoc.mpr (.inr ⟨stands, unwalked, undropped⟩), records⟩
  kept moment accounts stands fresh := by
    rcases stands_snoc.mp stands with ⟨-, walked⟩ | ⟨stood, -⟩
    · exact absurd walked (unwalked accounts)
    · exact agrees.kept moment accounts stood fresh

theorem agrees_same (agrees : Agrees client moments lists now sub query)
    (ttl : after.ttl = lists.ttl)
    (same : after.find? (listKey sub query) = lists.find? (listKey sub query)) :
    Agrees client moments after now sub query where
  held entry found := by
    rw [same] at found
    exact agrees.held entry found
  kept moment accounts stands fresh := by
    rw [ttl] at fresh
    rw [same]
    exact agrees.kept moment accounts stands fresh

theorem agrees_trimmed (agrees : Agrees client moments lists now sub query)
    (trimmed : ListCache.Trimmed IsListKey now lists after) :
    Agrees client moments after now sub query where
  held entry found := agrees.held entry (trimmed.found _ (isListKey sub query) entry found)
  kept moment accounts stands fresh := by
    rw [trimmed.ttl] at fresh
    obtain ⟨entry, found, records⟩ := agrees.kept moment accounts stands fresh
    have young : ListCache.Fresh lists.ttl now entry.storedAt := by rwa [records.storedAt]
    exact ⟨entry, trimmed.kept _ (isListKey sub query) entry found young, records⟩

/-- Time makes lists stale, and never fresh again. -/
theorem agrees_aged {early late : Int} (order : early ≤ late)
    (timed : ∀ moment ∈ moments, ∃ start, moment.doneAt client = .finite start)
    (agrees : Agrees client moments lists (.finite early) sub query) :
    Agrees client moments lists (.finite late) sub query where
  held := agrees.held
  kept moment accounts stands fresh := by
    obtain ⟨start, began⟩ := timed moment (stands_mem stands)
    rw [began] at fresh
    have before := ListCache.fresh_earlier order fresh
    rw [← began] at before
    exact agrees.kept moment accounts stands before

theorem walked_unique {other : List Resource} (h : last.Walked client sub query accounts)
    (h' : last.Walked client sub query other) : other = accounts := by
  cases h with
  | list ran sent =>
    generalize same : subscriptionOf client _ = sub at h'
    cases h' with
    | list ran' sent' =>
      rw [ran] at ran'
      cases ran'
      rfl

theorem drops_unwalked {query' : Option QueryOptions} {sub' : Option String}
    (h : last.Drops client sub) : ¬last.Walked client sub' query' accounts := by
  intro walked
  cases walked
  cases h

/-- What was just got and stored is all that stands under its key. -/
theorem agrees_walked {entry : CacheEntry (List Resource)}
    (walked : last.Walked client sub query accounts)
    (found : after.find? (listKey sub query) = some entry) 
    (records : Records client entry last accounts) :
    Agrees client (moments ++ [last]) after now sub query where
  held other found' := by
    rw [found] at found'
    cases found'
    exact ⟨last, accounts, stands_snoc.mpr (.inl ⟨rfl, walked⟩), records⟩
  kept moment newer stands _ := by
    rcases stands_snoc.mp stands with ⟨rfl, again⟩ | ⟨-, unwalked, -⟩
    · rw [walked_unique walked again]
      exact ⟨entry, found, records⟩
    · exact absurd walked (unwalked accounts)

/-- Under a key whose lists were just dropped, nothing stands. -/
theorem agrees_dropped (dropped : last.Drops client sub)
    (absent : after.find? (listKey sub query) = none) :
    Agrees client (moments ++ [last]) after now sub query where
  held entry found := by
    rw [absent] at found
    cases found
  kept moment accounts stands _ := by
    rcases stands_snoc.mp stands with ⟨-, walked⟩ | ⟨-, -, undropped⟩
    · exact absurd walked (drops_unwalked dropped)
    · exact absurd dropped undropped

/-! ## Coherence -/

/-- The cache of a world agrees with the past about all keys. -/
structure Coherent (client : Client) (ttl : Option Binary64) (moments : List Moment)
    (world : World) : Prop where
  ttl : world.lists.ttl = ttl
  holds : world.lists.Holds IsListKey
  runs : world.Runs
  timed : ∀ moment ∈ moments, ∃ start, moment.doneAt client = .finite start
  agrees : ∀ sub query, Agrees client moments world.lists world.clock sub query

variable {world later : World}

theorem coherent_start (lists : world.lists = .empty ttl) (runs : world.Runs) :
    Coherent client ttl [] world where
  ttl := by
    rw [lists]
    rfl
  holds entry hm := by
    rw [lists] at hm
    exact absurd hm List.not_mem_nil
  runs := runs
  timed moment hm := absurd hm List.not_mem_nil
  agrees sub query := {
    held := by
      intro entry found
      rw [lists] at found
      cases found
    kept := fun moment accounts stands _ => absurd stands stands_nil }

theorem coherent_pass {now next : Int} (coherent : Coherent client ttl moments world)
    (lists : later.lists = world.lists) (runs : later.Runs) (clock : world.clock = .finite now)
    (shown : later.clock = .finite next) (order : now ≤ next) :
    Coherent client ttl moments later where
  ttl := by
    rw [lists]
    exact coherent.ttl
  holds := by
    rw [lists]
    exact coherent.holds
  runs := runs
  timed := coherent.timed
  agrees sub query := by
    have agrees := coherent.agrees sub query
    rw [clock] at agrees
    rw [shown, lists]
    exact agrees_aged order coherent.timed agrees

/-- What agrees with the past before a step still does when the step is done. -/
theorem agrees_later (coherent : Coherent client ttl moments world)
    (runs : World.Later world later) (agrees : Agrees client moments lists world.clock sub query) :
    Agrees client moments lists later.clock sub query := by
  obtain ⟨early, late, began, ended, order⟩ := runs.clocks coherent.runs
  rw [began] at agrees
  rw [ended]
  exact agrees_aged order coherent.timed agrees

/-- A step keeps the coherence if it does not change the time to live, and agrees with the past
about all keys when it is done. -/
theorem coherent_snoc (coherent : Coherent client ttl moments world) {step : Step}
    (ends : step.after client world = later) (runs : World.Later world later)
    (same : later.lists.ttl = world.lists.ttl) (holds : later.lists.Holds IsListKey)
    (agrees : ∀ sub query,
      Agrees client (moments ++ [⟨step, world⟩]) later.lists later.clock sub query) :
    Coherent client ttl (moments ++ [⟨step, world⟩]) later where
  ttl := same.trans coherent.ttl
  holds := holds
  runs := runs.runs coherent.runs
  timed moment hm := by
    rcases List.mem_append.mp hm with old | new
    · exact coherent.timed moment old
    · obtain ⟨early, late, -, shown, -⟩ := runs.clocks coherent.runs
      rw [List.mem_singleton.mp new]
      unfold Moment.doneAt
      rw [ends]
      exact ⟨late, shown⟩
  agrees := agrees

/-! ## Steps -/

theorem walked_list {subscription : Option String} {refreshed : Bool}
    {query' : Option QueryOptions}
    (h : Moment.Walked client ⟨.list subscription refreshed query, world⟩ sub query' accounts) :
    sub = subscriptionOf client subscription ∧ query' = query ∧
      ∃ after, (listAccounts client subscription refreshed query).run world =
        (.ok accounts, after) ∧ after.requests ≠ world.requests := by
  cases h with
  | list ran sent => exact ⟨rfl, rfl, _, ran, sent⟩

theorem undropped_list {subscription : Option String} {refreshed : Bool} :
    ¬Moment.Drops client ⟨.list subscription refreshed query, world⟩ sub := by
  intro h
  cases h

/-- Asking for a list keeps the coherence: from the cache, in vain, or with a list to store. -/
theorem coherent_list (coherent : Coherent client ttl moments world)
    (subscription : Option String) (refreshed : Bool) (query : Option QueryOptions) :
    Coherent client ttl (moments ++ [⟨.list subscription refreshed query, world⟩])
      ((listAccounts client subscription refreshed query).run world).2 := by
  have listed := listAccounts_listed client subscription refreshed query coherent.holds
  rcases ran : (listAccounts client subscription refreshed query).run world with ⟨result, after⟩
  have ends : (Step.list subscription refreshed query).after client world = after :=
    congrArg Prod.snd ran
  rw [ran] at listed
  dsimp only at listed ⊢
  cases listed with
  | held found fresh value =>
    refine coherent_snoc coherent ends (later_refl world) rfl coherent.holds fun sub query' =>
      agrees_quiet (coherent.agrees sub query') ?_ undropped_list
    intro newer walked
    obtain ⟨-, -, left, ran', sent⟩ := walked_list walked
    rw [ran] at ran'
    cases ran'
    exact sent rfl
  | failed runs trimmed =>
    refine coherent_snoc coherent ends runs trimmed.ttl
      (ListCache.holds_sublist trimmed.entries coherent.holds) fun sub query' => agrees_quiet
      (agrees_later coherent runs (agrees_trimmed (coherent.agrees sub query') trimmed)) ?_
      undropped_list
    intro newer walked
    obtain ⟨-, -, left, ran', -⟩ := walked_list walked
    rw [ran] at ran'
    cases ran'
  | @stored accounts _ lists runs sent trimmed put =>
    have own := isListKey (subscriptionOf client subscription) query
    have held := ListCache.holds_sublist trimmed.entries coherent.holds
    refine coherent_snoc coherent ends runs ?_ ?_ fun sub query' => ?_
    · rw [put]
      exact trimmed.ttl
    · rw [put]
      exact ListCache.holds_put held own
    · rw [put]
      by_cases same : listKey sub query' = listKey (subscriptionOf client subscription) query
      · obtain ⟨rfl, rfl⟩ := listKey_injective same
        exact agrees_walked (.list ran sent) (ListCache.find?_put_self listKeys_apart held own)
          ⟨rfl, congrArg World.clock ends.symm⟩
      · have before := agrees_later coherent runs
          (agrees_trimmed (coherent.agrees sub query') trimmed)
        refine agrees_quiet (agrees_same before rfl ?_) ?_ undropped_list
        · exact ListCache.find?_put_other listKeys_apart held own (isListKey sub query') same
        · intro newer walked
          obtain ⟨rfl, rfl, -⟩ := walked_list walked
          exact same rfl

/-- Dropping the lists of a subscription keeps the coherence, if it makes these stale and no
others. -/
theorem coherent_drop {step : Step} (coherent : Coherent client ttl moments world)
    (ends : step.after client world = later) (runs : World.Later world later)
    (lists : later.lists = dropLists sub world.lists)
    (drops : ∀ other, Moment.Drops client ⟨step, world⟩ other ↔ other = sub) :
    Coherent client ttl (moments ++ [⟨step, world⟩]) later := by
  refine coherent_snoc coherent ends runs ?_ ?_ fun sub' query => ?_
  · rw [lists, dropLists_ttl]
  · rw [lists]
    exact dropLists_holds coherent.holds
  · rw [lists]
    by_cases same : sub' = sub
    · subst same
      exact agrees_dropped ((drops sub').mpr rfl) (dropLists_own coherent.holds query)
    · have kept := dropLists_other coherent.holds same query
      have agrees := agrees_same (agrees_later coherent runs (coherent.agrees sub' query))
        (dropLists_ttl sub world.lists) kept
      exact agrees_quiet agrees (fun newer => drops_unwalked ((drops sub).mpr rfl))
        fun falls => same ((drops sub').mp falls)

/-- A step that neither walks nor drops keeps the coherence, if it spares the cache. -/
theorem coherent_spared {step : Step} (coherent : Coherent client ttl moments world)
    (ends : step.after client world = later) (spared : World.Spared world later)
    (unwalked : ∀ sub query newer, ¬Moment.Walked client ⟨step, world⟩ sub query newer)
    (undropped : ∀ sub, ¬Moment.Drops client ⟨step, world⟩ sub) :
    Coherent client ttl (moments ++ [⟨step, world⟩]) later := by
  refine coherent_snoc coherent ends spared.toLater ?_ ?_ fun sub query => ?_
  · rw [spared.lists]
  · rw [spared.lists]
    exact coherent.holds
  · rw [spared.lists]
    exact agrees_quiet (agrees_later coherent spared.toLater (coherent.agrees sub query))
      (unwalked sub query) (undropped sub)

/-- A change keeps the coherence, if it makes the lists of its subscription stale exactly when
it succeeds. -/
theorem coherent_change {α : Type} {step : Step} {result : Except Failure α}
    (coherent : Coherent client ttl moments world) (ends : step.after client world = later)
    (changed : Changed sub world result later)
    (unwalked : ∀ sub query newer, ¬Moment.Walked client ⟨step, world⟩ sub query newer)
    (drops : ∀ other, Moment.Drops client ⟨step, world⟩ other ↔
      other = sub ∧ ∃ done, result = .ok done) :
    Coherent client ttl (moments ++ [⟨step, world⟩]) later := by
  cases changed with
  | failed spared =>
    refine coherent_spared coherent ends spared unwalked fun other falls => ?_
    obtain ⟨-, done, failed⟩ := (drops other).mp falls
    cases failed
  | done runs lists =>
    refine coherent_drop coherent ends runs lists fun other => ⟨fun falls => ?_, fun same => ?_⟩
    · exact ((drops other).mp falls).1
    · exact (drops other).mpr ⟨same, _, rfl⟩

theorem drops_create {identity : Identity} {parameters : Parameters} (other : Option String) :
    Moment.Drops client ⟨.create identity parameters, world⟩ other ↔
      other = subscriptionOf client identity.subscription ∧
        ∃ created, ((createAccount client identity parameters).run world).1 = .ok created := by
  constructor
  · intro dropped
    cases dropped with
    | create ran => exact ⟨rfl, _, congrArg Prod.fst ran⟩
  · rintro ⟨rfl, created, ran⟩
    exact .create (Prod.ext ran rfl)

theorem drops_delete {identity : Identity} (other : Option String) :
    Moment.Drops client ⟨.delete identity, world⟩ other ↔
      other = subscriptionOf client identity.subscription ∧
        ∃ done, ((deleteAccount client identity).run world).1 = .ok done := by
  constructor
  · intro dropped
    cases dropped with
    | delete ran => exact ⟨rfl, _, congrArg Prod.fst ran⟩
  · rintro ⟨rfl, done, ran⟩
    exact .delete (Prod.ext ran rfl)

theorem drops_invalidate {subscription : Option String} (other : Option String) :
    Moment.Drops client ⟨.invalidate subscription, world⟩ other ↔
      other = subscriptionOf client subscription := by
  constructor
  · intro dropped
    cases dropped
    rfl
  · rintro rfl
    exact .invalidate subscription world

theorem coherent_step (coherent : Coherent client ttl moments world) (step : Step) :
    Coherent client ttl (moments ++ [⟨step, world⟩]) (step.after client world) := by
  cases step with
  | list subscription refreshed query => exact coherent_list coherent subscription refreshed query
  | create identity parameters =>
    exact coherent_change coherent rfl (createAccount_changed client identity parameters world)
      (fun sub query newer walked => by cases walked) drops_create
  | delete identity =>
    exact coherent_change coherent rfl (deleteAccount_changed client identity world)
      (fun sub query newer walked => by cases walked) drops_delete
  | invalidate subscription =>
    exact coherent_drop coherent rfl ⟨rfl, Nat.le_refl _⟩ rfl drops_invalidate
  | clear =>
    refine coherent_snoc coherent rfl ⟨rfl, Nat.le_refl _⟩ rfl ?_ fun sub query =>
      agrees_dropped (.clear sub world) rfl
    intro entry hm
    exact absurd hm List.not_mem_nil

/-- After any past, the cache agrees with it about all keys. -/
theorem past_coherent (past : Past client ttl moments world) :
    Coherent client ttl moments world := by
  induction past with
  | start lists runs => exact coherent_start lists runs
  | pass past lists runs clock shown order ih =>
    exact coherent_pass ih lists runs clock shown order
  | step past step ih => exact coherent_step ih step

/-! ## What is taken from the cache -/

/-- What a read of the cache finds was got at a moment that stands. -/
theorem held_stands (past : Past client ttl moments world)
    (found : (world.lists.get world.clock (listKey sub query)).1 = some accounts) :
    ∃ moment, Stands client moments sub query moment accounts := by
  obtain ⟨entry, there, -, value⟩ := ListCache.get_some.mp found
  obtain ⟨moment, got, stands, records⟩ := ((past_coherent past).agrees sub query).held entry there
  rw [records.value] at value
  cases value
  exact ⟨moment, stands⟩

theorem stands_walked (stands : Stands client moments sub query moment accounts) :
    moment.Walked client sub query accounts := by
  obtain ⟨_, _, -, walked, -⟩ := stands
  exact walked

/-- A list that is got first of all stands. -/
theorem stands_first {subscription : Option String} (empty : world.lists = .empty ttl)
    (runs : world.Runs)
    (gets : ((listAccounts client subscription false query).run world).1.toOption.isSome =
      true) :
    ∃ moment accounts after, moment.world = world ∧ Past client ttl [moment] after ∧
      after.clock = moment.doneAt client ∧ World.Later world after ∧
      after.requests ≠ world.requests ∧
      Stands client [moment] (subscriptionOf client subscription) query moment accounts := by
  have past : Past client ttl [] world := .start empty runs
  have listed := listAccounts_listed client subscription false query (past_coherent past).holds
  have stepped : Past client ttl [⟨.list subscription false query, world⟩]
      ((listAccounts client subscription false query).run world).2 :=
    .step past (.list subscription false query)
  rcases ran : (listAccounts client subscription false query).run world with ⟨result, after⟩
  have ends : (Step.list subscription false query).after client world = after :=
    congrArg Prod.snd ran
  rw [ran] at gets listed stepped
  cases listed with
  | held found =>
    rw [empty] at found
    cases found
  | failed => cases gets
  | @stored accounts _ lists later sent trimmed put =>
    have stands : Stands client ([] ++ [⟨.list subscription false query, world⟩])
        (subscriptionOf client subscription) query ⟨.list subscription false query, world⟩
        accounts := stands_snoc.mpr (.inl ⟨rfl, .list ran sent⟩)
    exact ⟨_, accounts, after, rfl, stepped, congrArg World.clock ends.symm, later, sent, stands⟩

/-- After any past, a list is had without a request exactly if it was got from the service
before, still stands, and not more than the time to live has passed since all of it was there.
And whoever asks in vain, forced or not, finds
nothing in the cache afterwards that was not there before. -/
theorem listAccounts_cached (past : Past client ttl moments world)
    (subscription : Option String) (query : Option QueryOptions) :
    (∀ accounts,
      (∃ after, (listAccounts client subscription false query).run world = (.ok accounts, after) ∧
        after.requests = world.requests) ↔
      ∃ moment, Stands client moments (subscriptionOf client subscription) query moment accounts ∧
        ListCache.Fresh ttl world.clock (moment.doneAt client)) ∧
    ∀ refreshed failure after,
      (listAccounts client subscription refreshed query).run world = (.error failure, after) →
        after.lists.entries.Sublist world.lists.entries := by
  have coherent := past_coherent past
  have listed (refreshed : Bool) :=
    listAccounts_listed client subscription refreshed query coherent.holds
  have agrees := coherent.agrees (subscriptionOf client subscription) query
  refine ⟨fun accounts => ⟨?_, ?_⟩, ?_⟩
  · rintro ⟨after, ran, same⟩
    have listed := listed false
    rw [ran] at listed
    cases listed with
    | held found fresh value =>
      obtain ⟨moment, got, stands, records⟩ := agrees.held _ found
      rw [records.value] at value
      cases value
      rw [records.storedAt, coherent.ttl] at fresh
      exact ⟨moment, stands, fresh⟩
    | stored later sent trimmed put => exact absurd same sent
  · rintro ⟨moment, stands, fresh⟩
    rw [← coherent.ttl] at fresh
    obtain ⟨entry, found, records⟩ := agrees.kept moment accounts stands fresh
    rw [← records.storedAt] at fresh
    exact ⟨world, listAccounts_held client subscription found fresh records.value, rfl⟩
  · intro refreshed failure after ran
    have listed := listed refreshed
    rw [ran] at listed
    cases listed with
    | failed later trimmed => exact trimmed.entries

/-- A list that is asked for again when exactly the time to live has passed since it was stored,
and more since the service was asked for it. -/
theorem listAccounts_cached_again :
    ∃ client moments world,
      Past client (some (.finite 5)) moments world ∧ moments.length = 1 ∧
      (∀ moment ∈ moments, moment.world.clock = .finite 0) ∧ world.clock = .finite 8 ∧
      ∃ accounts after,
        (listAccounts client (some "s") false none).run world = (.ok accounts, after) ∧
          after.requests = world.requests := by
  let listed : Response := ⟨200, [], Text.Utf8.encode "\x7b\"value\":[]\x7d", none, none, 100⟩
  let start := { World.fresh [.response listed] 0 (some (.finite 5)) with
    time := fun done => .finite (if done = 0 then 0 else 3) }
  have runs : start.Runs := by
    refine ⟨fun done => if done = 0 then 0 else 3, fun m n order => ?_, fun n => rfl⟩
    dsimp only
    split <;> split <;> omega
  obtain ⟨page, good, ends⟩ := only_page
    (show listed.resources.toOption.map Page.continuation = some none by decide +kernel)
  obtain ⟨-, got, -, refreshed, -⟩ :=
    standard_stored (show start.replies = .response listed :: [] from rfl) good ends
  have gets : ((listAccounts (Client.ofSettings .standard) (some "s") false none).run
      start).1.toOption.isSome = true := by
    rw [listAccounts_missed (Client.ofSettings .standard) (some "s") rfl]
    exact congrArg (fun ran => ran.1.toOption.isSome) refreshed
  obtain ⟨moment, accounts, after, began, past, done, forward, sent, stands⟩ :=
    stands_first rfl runs gets
  -- Something was done, so the clock shows the later one of its two times.
  have some : after.events.length ≠ 0 := by
    intro none
    refine sent ?_
    unfold World.requests
    rw [List.eq_nil_of_length_eq_zero none]
    rfl
  have clock : after.clock = .finite 3 := by
    unfold World.clock
    rw [forward.time]
    exact congrArg Binary64.finite (if_neg some)
  have later : Past _ _ [moment] { after with time := fun _ => .finite 8 } :=
    .pass past rfl ⟨fun _ => 8, fun _ _ _ => Int.le_refl _, fun _ => rfl⟩ clock rfl (by decide)
  have fresh : ListCache.Fresh (.some (.finite 5)) (.finite 8)
      (moment.doneAt (Client.ofSettings .standard)) := by
    rw [← done, clock]
    intro limit hl
    cases hl
    decide +kernel
  refine ⟨_, _, _, later, rfl, ?_, rfl, accounts,
    ((listAccounts_cached later (.some "s") none).1 accounts).mpr ⟨moment, stands, fresh⟩⟩
  intro other hm
  rw [List.mem_singleton.mp hm, began]
  rfl

end LakeAdmin.Explorer
