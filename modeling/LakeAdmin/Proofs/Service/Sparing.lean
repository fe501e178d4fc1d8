import LakeAdmin.Proofs.Pager
import LakeAdmin.Proofs.Service.Habit

/-!
What the client leaves alone. Requests, polls and walks take replies, keep tokens and write the
log, but they neither look at the cache nor change it, and the clock runs on. Only those who browse
with the client keep lists.
-/

namespace LakeAdmin

open Http

variable {α β : Type}

/-- The clock is the one it was, and has run on. -/
structure Http.World.Later (before after : World) : Prop where
  time : after.time = before.time
  events : before.events.length ≤ after.events.length

theorem later_refl (world : World) : World.Later world world := ⟨rfl, Nat.le_refl _⟩

theorem Http.World.Later.trans {first second third : World} (h : World.Later first second)
    (h' : World.Later second third) : World.Later first third :=
  ⟨h'.time.trans h.time, Nat.le_trans h.events h'.events⟩

theorem later_record (world : World) (event : Event) :
    World.Later world (world.record event) := ⟨rfl, by simp [World.record]⟩

/-- The clock shows times that do not decrease. -/
def Http.World.Runs (world : World) : Prop :=
  ∃ times : Nat → Int, (∀ m n, m ≤ n → times m ≤ times n) ∧
    ∀ n, world.time n = .finite (times n)

/-- What the clock shows of a world and of a later one. -/
theorem Http.World.Later.clocks {before after : World} (h : World.Later before after)
    (runs : before.Runs) : ∃ now next : Int,
      before.clock = .finite now ∧ after.clock = .finite next ∧ now ≤ next := by
  obtain ⟨times, order, shown⟩ := runs
  refine ⟨_, _, shown _, ?_, order _ _ h.events⟩
  unfold World.clock
  rw [h.time, shown]

theorem Http.World.Later.runs {before after : World} (h : World.Later before after)
    (runs : before.Runs) : after.Runs := by
  obtain ⟨times, order, shown⟩ := runs
  exact ⟨times, order, fun n => by rw [h.time, shown]⟩

/-- The same world with a clock that shows this time. -/
def Http.World.showing (world : World) (clock : Binary64) : World :=
  { world with time := fun _ => clock }

/-- The cache is as it was, and the clock has run on. -/
structure Http.World.Spared (before after : World) : Prop extends World.Later before after where
  lists : after.lists = before.lists

theorem spared_refl (world : World) : World.Spared world world := ⟨later_refl world, rfl⟩

theorem Http.World.Spared.trans {first second third : World} (h : World.Spared first second)
    (h' : World.Spared second third) : World.Spared first third :=
  ⟨h.toLater.trans h'.toLater, h'.lists.trans h.lists⟩

def Http.Action.Spares (action : Action α) : Prop :=
  ∀ world, World.Spared world (action.run world).2

/-! ## Steps -/

theorem spares_pure (a : α) : Action.Spares (pure a) := fun world => spared_refl world

theorem spares_throw (failure : Failure) : Action.Spares (throw failure : Action α) :=
  fun world => spared_refl world

theorem spares_ofExcept {ε : Type} (wrap : ε → Failure) (x : Except ε α) :
    Action.Spares (Action.ofExcept wrap x) := by
  cases x with
  | error e => exact spares_throw (wrap e)
  | ok a => exact spares_pure a

theorem spares_note (line : Note) : Action.Spares (Action.note line) :=
  fun world => ⟨later_record world (.noted line), rfl⟩

theorem spares_sleep (seconds : Binary64) : Action.Spares (Action.sleep seconds) :=
  fun world => ⟨later_record world (.slept seconds), rfl⟩

theorem spared_spend (world : World) (request : Request) :
    World.Spared world (world.spend request) := ⟨⟨rfl, by simp [World.spend]⟩, rfl⟩

theorem spares_bind {x : Action α} {f : α → Action β} (hx : Action.Spares x)
    (hf : ∀ a, Action.Spares (f a)) : Action.Spares (x >>= f) := by
  intro world
  have first := hx world
  rw [Action.run_bind]
  rcases hr : x.run world with ⟨failure | a, after⟩
  · rw [hr] at first
    exact first
  · rw [hr] at first
    exact first.trans (hf a after)

theorem spares_exchange (request : Request) : Action.Spares (exchange request) := by
  intro world
  rw [exchange_run]
  exact spared_spend world request

/-! ## Requests -/

theorem spares_next (source : TokenSource) : Action.Spares source.next := by
  intro world
  have errand := next_errand source world
  generalize (source.next.run world).2 = after at errand
  cases errand with
  | none => exact spared_refl world
  | exchanged => exact ⟨⟨rfl, (spared_spend world _).events⟩, rfl⟩

variable (client : Client)

theorem spares_authorization (address : String) :
    Action.Spares (client.authorization address) := by
  unfold Client.authorization
  split
  · exact spares_pure []
  · refine spares_bind (spares_ofExcept _ _) fun own => ?_
    split
    · exact spares_bind (spares_next _) fun token => spares_pure _
    · exact spares_bind (spares_note _) fun _ => spares_pure []

theorem spares_headers (address : String) (extra : Headers) :
    Action.Spares (client.headers address extra) := by
  intro world
  rw [headers_run]
  have numbered : World.Spared world { world with ids := world.ids + 1 } :=
    ⟨⟨rfl, Nat.le_refl _⟩, rfl⟩
  exact numbered.trans (spares_authorization client address _)

theorem spares_request (method address : String) (params : Option (List (String × String)))
    (json : Json) (extra : Headers) :
    Action.Spares (client.request method address params json extra) := by
  unfold Client.request
  refine spares_bind (spares_headers client address extra) fun headers => ?_
  refine spares_bind (spares_ofExcept _ _) fun request => ?_
  refine spares_bind (spares_exchange request) fun response => ?_
  exact spares_bind (spares_note _) fun _ => spares_pure response

theorem spares_send (method path : String) (params : Members) (json : Json) (extra : Headers) :
    Action.Spares (client.send method path params json extra) := by
  unfold Client.send
  split
  · exact spares_bind (spares_throw _) fun _ =>
      spares_bind (spares_ofExcept _ _) fun _ => spares_request _ _ _ _ _ _
  · exact spares_bind (spares_ofExcept _ _) fun _ => spares_request _ _ _ _ _ _

theorem spares_fetchNext (link : String) : Action.Spares (client.fetchNext link) := by
  unfold Client.fetchNext
  split
  · exact spares_bind (spares_throw _) fun _ =>
      spares_bind (spares_ofExcept _ _) fun _ => spares_request _ _ _ _ _ _
  · exact spares_bind (spares_ofExcept _ _) fun _ => spares_request _ _ _ _ _ _

theorem spares_follow (token : Wide) : Action.Spares (client.follow token) := by
  cases token with
  | plain link => exact spares_fetchNext client link
  | ragged text => exact spares_throw .notUnicode

/-! ## Operations -/

theorem spares_habit : client.Habit fun _ => Action.Spares where
  returns := spares_pure
  fails _ := spares_throw _
  bind := spares_bind
  notes := spares_note
  sleeps := spares_sleep
  reads _ := spares_send client _ _ _ _ _
  follows _ := spares_fetchNext client _

/-- An operation that takes long changes nothing in the cache, whatever comes of it. -/
theorem spares_runLong (operation : LongOperation) (identity : Option Identity)
    (parameters : Parameters) : Action.Spares (client.runLong operation identity parameters) :=
  (spares_habit client).runLong (fun _ => spares_throw) operation
    (fun _ _ => spares_send client _ _ _ _ _) identity parameters

theorem spares_fetchPage (operation : ListOperation) (path : String) (params : Members)
    (token : Option Wide) :
    Action.Spares (client.fetchPage operation path params token : Action (Page Resource)) := by
  have read (response : Response) : Action.Spares
      (Action.ofExcept id (response.page Resource.check listSuccess)) := spares_ofExcept _ _
  cases token with
  | none => exact spares_bind (spares_send client _ _ _ _ _) read
  | some link => exact spares_bind (spares_follow client link) read

/-- A walk changes nothing in the cache. The induction is on the leave to fetch. -/
theorem walkFrom_spares {pager : Pager World Failure Resource}
    (fetch : ∀ token, Action.Spares (pager.fetch token : Action (Page Resource)))
    (emit : Page Resource → List α) (leave seen : Nat) (demand : Option Nat)
    (token : Option Wide) (world : World) :
    World.Spared world (pager.walkFrom emit leave seen demand token world).2 := by
  induction leave generalizing seen demand token world with
  | zero => exact spared_refl world
  | succ leave ih =>
    have first : World.Spared world (pager.fetch token world).2 := fetch token world
    have stretch := pager.walkFrom_stretch emit leave seen demand token world
    generalize pager.walkFrom emit (leave + 1) seen demand token world = walked at stretch ⊢
    cases stretch with
    | failed fetched | enough fetched | last fetched => rwa [fetched] at first
    | @next page link _ after _ fetched _ _ _ behind =>
      rw [fetched] at first
      have rest := ih (seen + 1) (demand.map (· - (emit page).length)) (some link) after
      rw [behind] at rest
      exact first.trans rest

end LakeAdmin
