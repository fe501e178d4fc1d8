import LakeAdmin.Client.Token
import LakeAdmin.Proofs.Http.Exchange
import LakeAdmin.Proofs.Numeric.Exact
import LakeAdmin.Proofs.Url.Host

/-!
Tokens that are kept. What is kept for a scope is what the last successful fetch for it got,
with the lifetime counted from the time before the request; whatever fails keeps nothing. So a
call sends a request if and only if that token cannot be used any more, and then just one.
The kept tokens are never looked into to say so.
-/

namespace LakeAdmin.Token

open Http

/-! ## One fetch -/

def post (credentials : Credentials) (scope : String) (url : Url) : Request := {
  method := "POST", url := url, body := .form (form credentials scope)
  headers := [("Content-Type", "application/x-www-form-urlencoded")] }

/-- What comes of the request for a token that is sent now: the token and its lifetime in
seconds. -/
def granted (credentials : Credentials) (scope : String) (url : Url) (world : World) :
    Except Failure (Document × Int) := do
  let response ← outcome (post credentials scope url) world.replies
  let (token, seconds) ← (ofAnswer url.toText response).mapError .token
  let _ ← (expiry world.clock seconds).mapError .token
  return (token, seconds)

/-- A token of a lifetime, got at a time. -/
def heldFrom (scope : String) (token : Document) (start : Binary64) (seconds : Int) : HeldToken :=
  ⟨scope, token, start + .ofInt seconds⟩

/-- What becomes of a world in which a token is asked for, and what comes of it. -/
inductive Fetches (credentials : Credentials) (scope : String) (world : World) :
    Except Failure Document → World → Prop
  /-- The place of the token service is no URL, and nothing is sent. -/
  | unaddressed {fault : UrlFault} (nowhere : requestUrl (address credentials) none = .error fault) :
      Fetches credentials scope world (.error (.badUrl fault)) world
  /-- One request is sent, and no token is granted. Nothing else changes. -/
  | failed {url : Url} {failure : Failure}
      (place : requestUrl (address credentials) none = .ok url)
      (bad : granted credentials scope url world = .error failure) :
      Fetches credentials scope world (.error failure)
        (world.spend (post credentials scope url))
  /-- One request is sent, and the token that is granted is kept. -/
  | stored {url : Url} {token : Document} {seconds : Int}
      (place : requestUrl (address credentials) none = .ok url)
      (found : granted credentials scope url world = .ok (token, seconds)) :
      Fetches credentials scope world (.ok token)
        { world.spend (post credentials scope url) with
          tokens := keep (heldFrom scope token world.clock seconds) world.tokens }

variable {credentials : Credentials} {scope : String} {world after : World}

theorem expiry_ok {now expiresAt : Binary64} {seconds : Int}
    (h : expiry now seconds = .ok expiresAt) : expiresAt = now + .ofInt seconds := by
  unfold expiry at h
  dsimp only at h
  split at h
  · cases h
    rfl
  · cases h

theorem granted_answered {url : Url} {response : Response}
    (sent : outcome (post credentials scope url) world.replies = .ok response) :
    granted credentials scope url world = (do
      let (token, seconds) ← (ofAnswer url.toText response).mapError .token
      let _ ← (expiry world.clock seconds).mapError .token
      return (token, seconds)) := by
  unfold granted
  rw [sent]
  rfl

theorem granted_read {url : Url} {response : Response} {token : Document} {seconds : Int}
    (sent : outcome (post credentials scope url) world.replies = .ok response)
    (read : ofAnswer url.toText response = .ok (token, seconds)) :
    granted credentials scope url world =
      ((expiry world.clock seconds).mapError Failure.token).map fun _ => (token, seconds) := by
  have passed : (ofAnswer url.toText response).mapError Failure.token = .ok (token, seconds) := by
    rw [read]
    rfl
  rw [granted_answered sent, passed]
  dsimp only [bind, Except.bind]
  cases expiry world.clock seconds <;> rfl

theorem fetch_fetches (credentials : Credentials) (scope : String) (world : World) :
    Fetches credentials scope world
      ((fetch credentials scope world.clock).run world).1
      ((fetch credentials scope world.clock).run world).2 := by
  unfold fetch
  cases place : requestUrl (address credentials) none with
  | error fault =>
    rw [Action.run_bind_error (Action.run_ofExcept_error _ _ _)]
    exact .unaddressed place
  | ok url =>
    have sent := exchange_run (post credentials scope url) world
    rw [Action.run_bind_ok (Action.run_ofExcept_ok _ _ _)]
    cases ho : outcome (post credentials scope url) world.replies with
    | error failure =>
      have bad : granted credentials scope url world = .error failure := by
        unfold granted
        rw [ho]
        rfl
      rw [ho] at sent
      unfold post at sent
      rw [Action.run_bind_error sent]
      exact .failed place bad
    | ok response =>
      rw [ho] at sent
      unfold post at sent
      rw [Action.run_bind_ok sent]
      cases ha : ofAnswer url.toText response with
      | error fault =>
        have bad : granted credentials scope url world = .error (.token fault) := by
          rw [granted_answered ho, ha]
          rfl
        rw [Action.run_bind_error (Action.run_ofExcept_error _ _ _)]
        exact .failed place bad
      | ok answer =>
        obtain ⟨token, seconds⟩ := answer
        have read := granted_read ho ha
        rw [Action.run_bind_ok (Action.run_ofExcept_ok _ _ _)]
        dsimp only
        cases he : expiry world.clock seconds with
        | error fault =>
          rw [he] at read
          rw [Action.run_bind_error (Action.run_ofExcept_error _ _ _)]
          exact .failed place read
        | ok expiresAt =>
          rw [he] at read
          rw [Action.run_bind_ok (Action.run_ofExcept_ok _ _ _),
            Action.run_bind_ok (Action.run_modify _ _), expiry_ok he]
          exact .stored place read

/-! ## Pasts -/

/-- A call for the token of a scope, and the world in which it was made. -/
structure Call where
  scope : String
  world : World

/-- What came of a call, and the world after it. -/
def Call.result (credentials : Credentials) (call : Call) : Except Failure Document × World :=
  (obtain credentials call.scope).run call.world

/-- A call got its token from the token service, by a request that was granted it for so many
seconds. -/
structure Call.Fetched (credentials : Credentials) (call : Call) (token : Document) (seconds : Int) :
    Prop where
  ran : (call.result credentials).1 = .ok token
  sent : (call.result credentials).2.requests ≠ call.world.requests
  found : ∃ url, requestUrl (address credentials) none = .ok url ∧
    granted credentials call.scope url call.world = .ok (token, seconds)

/-- The last of all calls for a scope that got its token from the token service. -/
def Latest (credentials : Credentials) (calls : List Call) (scope : String) (call : Call)
    (token : Document) (seconds : Int) : Prop :=
  ∃ earlier later, calls = earlier ++ call :: later ∧ call.scope = scope ∧
    call.Fetched credentials token seconds ∧
    ∀ other ∈ later, other.scope = scope →
      ∀ token seconds, ¬other.Fetched credentials token seconds

/-- The calls made from the time on when no token was kept, and the world they led to. Between
two calls anything may happen, and the clock may show any time, as long as nobody else touches
the kept tokens. -/
inductive Past (credentials : Credentials) : List Call → World → Prop
  | start {world : World} (tokens : world.tokens = []) : Past credentials [] world
  | pass {calls : List Call} {world later : World} (past : Past credentials calls world)
      (tokens : later.tokens = world.tokens) : Past credentials calls later
  | call {calls : List Call} {world : World} (past : Past credentials calls world)
      (scope : String) :
      Past credentials (calls ++ [⟨scope, world⟩])
        (Call.result credentials ⟨scope, world⟩).2

variable {calls : List Call} {last call : Call} {token : Document} {seconds : Int}

theorem fetched_unique {token' : Document} {seconds' : Int}
    (h : call.Fetched credentials token seconds) (h' : call.Fetched credentials token' seconds') :
    token' = token ∧ seconds' = seconds := by
  obtain ⟨url, place, found⟩ := h.found
  obtain ⟨url', place', found'⟩ := h'.found
  cases place.symm.trans place'
  cases found.symm.trans found'
  exact ⟨rfl, rfl⟩

theorem latest_nil : ¬Latest credentials [] scope call token seconds := by
  rintro ⟨earlier, later, split, -⟩
  simp at split

/-- The latest fetch is that of the last call, or else the one before. -/
theorem latest_snoc :
    Latest credentials (calls ++ [last]) scope call token seconds ↔
      (call = last ∧ last.scope = scope ∧ last.Fetched credentials token seconds) ∨
        (Latest credentials calls scope call token seconds ∧
          (last.scope = scope → ∀ token seconds, ¬last.Fetched credentials token seconds)) := by
  constructor
  · rintro ⟨earlier, later, split, named, fetched, quiet⟩
    rcases List.eq_nil_or_concat later with rfl | ⟨front, final, rfl⟩
    · obtain ⟨-, same⟩ := List.append_inj' split rfl
      cases same
      exact .inl ⟨rfl, named, fetched⟩
    · rw [List.concat_eq_append] at split quiet
      have ends : calls ++ [last] = (earlier ++ call :: front) ++ [final] := by
        rw [split, List.append_assoc, List.cons_append]
      obtain ⟨rest, same⟩ := List.append_inj' ends rfl
      cases same
      have before (other : Call) (hm : other ∈ front) := quiet other (List.mem_append_left _ hm)
      exact .inr ⟨⟨earlier, front, rest, named, fetched, before⟩, quiet last (by simp)⟩
  · rintro (⟨rfl, named, fetched⟩ | ⟨⟨earlier, later, rfl, named, fetched, quiet⟩, silent⟩)
    · exact ⟨calls, [], rfl, named, fetched, fun other hm => absurd hm List.not_mem_nil⟩
    · refine ⟨earlier, later ++ [last], by simp, named, fetched, fun other hm => ?_⟩
      rcases List.mem_append.mp hm with old | new
      · exact quiet other old
      · rw [List.mem_singleton.mp new]
        exact silent

/-! ## What is kept -/

theorem held_keep_self (held : HeldToken) (tokens : List HeldToken) :
    (keep held tokens).find? (·.scope == held.scope) = some held := by
  induction tokens with
  | nil => simp [keep]
  | cons other rest ih =>
    by_cases same : other.scope = held.scope
    · simp [keep, same]
    · simp [keep, same, ih]

theorem held_keep_other (held : HeldToken) {scope : String} (h : scope ≠ held.scope)
    (tokens : List HeldToken) :
    (keep held tokens).find? (·.scope == scope) = tokens.find? (·.scope == scope) := by
  induction tokens with
  | nil => simp [keep, h.symm]
  | cons other rest ih =>
    by_cases same : other.scope = held.scope
    · simp [keep, same, h.symm]
    · simp [keep, same, List.find?_cons, ih]

/-- What is kept agrees with the past: for each scope, it is what the latest fetch got. -/
def Agrees (credentials : Credentials) (calls : List Call) (world : World) : Prop :=
  ∀ scope held, held? world scope = some held ↔
    ∃ call token seconds, Latest credentials calls scope call token seconds ∧
      held = heldFrom scope token call.world.clock seconds

/-- What comes of a call, and what becomes of the world: the token that is kept, or else what
a fetch gives. -/
inductive Obtained (credentials : Credentials) (scope : String) (world : World) :
    Except Failure Document → World → Prop
  | kept {held : HeldToken} (found : held? world scope = some held)
      (fresh : isFresh world.clock held = true) :
      Obtained credentials scope world (.ok held.token) world
  | fetched {result : Except Failure Document} {after : World}
      (stale : ∀ held, held? world scope = some held → isFresh world.clock held = false)
      (fetches : Fetches credentials scope world result after) :
      Obtained credentials scope world result after

theorem obtain_obtained (credentials : Credentials) (scope : String) (world : World) :
    Obtained credentials scope world ((obtain credentials scope).run world).1
      ((obtain credentials scope).run world).2 := by
  have fetches := fetch_fetches credentials scope world
  unfold obtain
  rw [Action.run_bind_ok (Action.run_get _)]
  cases found : held? world scope with
  | none =>
    refine .fetched (fun held h => ?_) fetches
    cases found.symm.trans h
  | some held =>
    dsimp only
    cases fresh : isFresh world.clock held with
    | true => exact .kept found fresh
    | false =>
      rw [if_neg Bool.false_ne_true]
      refine .fetched (fun other h => ?_) fetches
      cases found.symm.trans h
      exact fresh

theorem requests_spend (world : World) (request : Request) :
    (world.spend request).requests = world.requests ++ [request] := by
  simp [World.requests]

/-- A call that sends the request, and returns the token that this was granted, has fetched
it. -/
theorem stored_fetched {url : Url}
    (ran : (obtain credentials scope).run world = (.ok token, after))
    (sent : after.requests = world.requests ++ [post credentials scope url])
    (place : requestUrl (address credentials) none = .ok url)
    (found : granted credentials scope url world = .ok (token, seconds)) :
    Call.Fetched credentials ⟨scope, world⟩ token seconds where
  ran := congrArg Prod.fst ran
  sent := by
    have after_eq : (Call.result credentials ⟨scope, world⟩).2 = after := congrArg Prod.snd ran
    rw [after_eq, sent]
    simp
  found := ⟨url, place, found⟩

/-- A call that fetches nothing keeps the agreement, if it leaves the tokens alone. -/
theorem agrees_unfetched (agrees : Agrees credentials calls world)
    (tokens : after.tokens = world.tokens)
    (quiet : ∀ token seconds, ¬last.Fetched credentials token seconds) :
    Agrees credentials (calls ++ [last]) after := by
  intro scope held
  have same : held? after scope = held? world scope := by
    unfold held?
    rw [tokens]
  rw [same, agrees scope held]
  refine exists_congr fun call => exists_congr fun token => exists_congr fun seconds => ?_
  refine and_congr_left fun _ => ?_
  rw [latest_snoc]
  constructor
  · exact fun latest => .inr ⟨latest, fun _ => quiet⟩
  · rintro (⟨-, -, fetched⟩ | ⟨latest, -⟩)
    · exact absurd fetched (quiet token seconds)
    · exact latest

/-- A call that fetches a token keeps the agreement, if it keeps the token. -/
theorem agrees_fetched (agrees : Agrees credentials calls world)
    (fetched : last.Fetched credentials token seconds)
    (tokens : after.tokens =
      keep (heldFrom last.scope token last.world.clock seconds) world.tokens) :
    Agrees credentials (calls ++ [last]) after := by
  intro scope held
  unfold held?
  rw [tokens]
  by_cases own : scope = last.scope
  · subst own
    have kept : (keep (heldFrom last.scope token last.world.clock seconds) world.tokens).find?
        (·.scope == last.scope) = some (heldFrom last.scope token last.world.clock seconds) :=
      held_keep_self (heldFrom last.scope token last.world.clock seconds) world.tokens
    rw [kept]
    constructor
    · intro same
      exact ⟨last, token, seconds, latest_snoc.mpr (.inl ⟨rfl, rfl, fetched⟩),
        (Option.some.inj same).symm⟩
    · rintro ⟨call, token', seconds', latest, rfl⟩
      rcases latest_snoc.mp latest with ⟨rfl, -, again⟩ | ⟨-, silent⟩
      · obtain ⟨rfl, rfl⟩ := fetched_unique fetched again
        rfl
      · exact absurd fetched (silent rfl token seconds)
  · rw [held_keep_other _ own]
    refine (agrees scope held).trans ?_
    refine exists_congr fun call => exists_congr fun token => exists_congr fun seconds => ?_
    refine and_congr_left fun _ => ?_
    rw [latest_snoc]
    constructor
    · exact fun latest => .inr ⟨latest, fun named => absurd named.symm own⟩
    · rintro (⟨-, named, -⟩ | ⟨latest, -⟩)
      · exact absurd named.symm own
      · exact latest

theorem agrees_call (agrees : Agrees credentials calls world) (scope : String) :
    Agrees credentials (calls ++ [⟨scope, world⟩]) (Call.result credentials ⟨scope, world⟩).2 := by
  have obtained := obtain_obtained credentials scope world
  rcases ran : (obtain credentials scope).run world with ⟨result, after⟩
  have result_eq : Call.result credentials ⟨scope, world⟩ = (result, after) := ran
  rw [ran] at obtained
  rw [result_eq]
  dsimp only at obtained ⊢
  have failing {failure : Failure} (h : result = .error failure) (token : Document) (seconds : Int) :
      ¬Call.Fetched credentials ⟨scope, world⟩ token seconds := by
    intro fetched
    have ran := fetched.ran
    rw [result_eq, h] at ran
    cases ran
  cases obtained with
  | kept found fresh =>
    refine agrees_unfetched agrees rfl fun token seconds fetched => fetched.sent ?_
    rw [result_eq]
  | fetched stale fetches =>
    cases fetches with
    | unaddressed nowhere => exact agrees_unfetched agrees rfl (failing rfl)
    | failed place bad => exact agrees_unfetched agrees rfl (failing rfl)
    | stored place found =>
      exact agrees_fetched agrees
        (stored_fetched ran (requests_spend world _) place found) rfl

/-- After any past, what is kept agrees with it. -/
theorem past_agrees (past : Past credentials calls world) : Agrees credentials calls world := by
  induction past with
  | start tokens =>
    intro scope held
    unfold held?
    rw [tokens]
    constructor
    · intro found
      cases found
    · rintro ⟨call, token, seconds, latest, -⟩
      exact absurd latest latest_nil
  | pass past tokens ih =>
    intro scope held
    rw [← ih scope held]
    unfold held?
    rw [tokens]
  | call past scope ih => exact agrees_call ih scope

/-! ## Calls -/

/-- A token that was asked for at a time, for so many seconds, can still be used: a minute is
left of its lifetime, and more. -/
def Usable (now start : Binary64) (seconds : Int) : Prop :=
  Binary64.lt now (start + .ofInt seconds - slack) = true

theorem slack_units : slack.units? = some (60 * (Binary64.one : Int)) := by
  have seconds : slack = Binary64.ofInt 60 := rfl
  rw [seconds]
  exact Binary64.whole_exact (by decide)

/-- No rounding takes place from a time, in units, to the end of a lifetime, and back by a
minute. -/
structure IsExactFrom (start : Int) (seconds : Int) : Prop where
  lifetime : Binary64.IsExact (seconds * Binary64.one)
  ends : Binary64.IsExact (start + seconds * Binary64.one)
  minute : Binary64.IsExact (start + seconds * Binary64.one - 60 * Binary64.one)

/-- Without rounding, the times are compared as they are. -/
theorem usable_exact {now start : Binary64} {a b : Int} {seconds : Int}
    (began : start.units? = some a) (shown : now.units? = some b)
    (exact : IsExactFrom a seconds) :
    Usable now start seconds ↔ b < a + (seconds - 60) * Binary64.one := by
  have lives : (Binary64.ofInt seconds).units? = some (seconds * Binary64.one) := exact.lifetime
  have ends := Binary64.sub_units (Binary64.add_units began lives exact.ends) slack_units
    exact.minute
  unfold Usable
  rw [Binary64.lt_units shown ends, decide_eq_true_eq, Int.sub_mul, Int.add_sub_assoc]

/-- What the past has to do with a call for a scope. The token that is meant is the one that
was fetched last for this scope. -/
structure Remembers (credentials : Credentials) (calls : List Call) (scope : String)
    (world : World) (result : Except Failure Document) (after : World) : Prop where
  /-- The token is returned, and nothing is done, if it can still be used. -/
  kept : ∀ call token seconds, Latest credentials calls scope call token seconds →
    Usable world.clock call.world.clock seconds → result = .ok token ∧ after = world
  /-- One is fetched if it cannot. -/
  fetched : (∀ call token seconds, Latest credentials calls scope call token seconds →
    ¬Usable world.clock call.world.clock seconds) → Fetches credentials scope world result after
  /-- Where there is a token service, nothing is sent only if the token can still be used. -/
  silent : ∀ url, requestUrl (address credentials) none = .ok url →
    (after.requests = world.requests ↔
      ∃ call token seconds, Latest credentials calls scope call token seconds ∧
        Usable world.clock call.world.clock seconds)
  /-- A failure leaves all tokens as they were. -/
  unchanged : ∀ failure, result = .error failure → after.tokens = world.tokens
  /-- The tokens of other scopes always stay as they were. -/
  others : ∀ other, other ≠ scope → held? after other = held? world other
  /-- Without rounding, a token can be used as long as more than a minute is left of its
  lifetime. -/
  unrounded : ∀ call token seconds a b, Latest credentials calls scope call token seconds →
    call.world.clock.units? = some a → world.clock.units? = some b → IsExactFrom a seconds →
    (Usable world.clock call.world.clock seconds ↔ b < a + (seconds - 60) * Binary64.one)

variable {result : Except Failure Document}

theorem fetches_requests (h : Fetches credentials scope world result after) {url : Url}
    (place : requestUrl (address credentials) none = .ok url) :
    after.requests = world.requests ++ [post credentials scope url] := by
  cases h with
  | unaddressed nowhere => cases place.symm.trans nowhere
  | failed place' bad =>
    cases place.symm.trans place'
    exact requests_spend world _
  | stored place' found =>
    cases place.symm.trans place'
    exact requests_spend world _

theorem fetches_unchanged {failure : Failure}
    (h : Fetches credentials scope world (.error failure) after) :
    after.tokens = world.tokens := by
  cases h <;> rfl

theorem fetches_others (h : Fetches credentials scope world result after) {other : String}
    (apart : other ≠ scope) : held? after other = held? world other := by
  cases h with
  | unaddressed nowhere => rfl
  | failed place bad => rfl
  | @stored url token seconds place found =>
    exact held_keep_other (heldFrom scope token world.clock seconds) apart world.tokens

/-- After any past, a call for a scope sends no request exactly if the token that was fetched
last for this scope is still good for more than a minute, and then returns it. Otherwise it
sends one request. What it gets is returned and kept; if it gets nothing, all tokens are kept
as they were, and those of other scopes always are. -/
theorem obtain_remembers (past : Past credentials calls world) (scope : String) :
    Remembers credentials calls scope world ((obtain credentials scope).run world).1
      ((obtain credentials scope).run world).2 := by
  have agrees := past_agrees past scope
  have obtained := obtain_obtained credentials scope world
  generalize (obtain credentials scope).run world = ran at obtained ⊢
  obtain ⟨result, after⟩ := ran
  dsimp only at obtained ⊢
  have unrounded : ∀ call token seconds a b, Latest credentials calls scope call token seconds →
      call.world.clock.units? = some a → world.clock.units? = some b → IsExactFrom a seconds →
      (Usable world.clock call.world.clock seconds ↔ b < a + (seconds - 60) * Binary64.one) :=
    fun call token seconds a b _ began shown exact => usable_exact began shown exact
  cases obtained with
  | @kept held found fresh =>
    obtain ⟨call, token, seconds, latest, rfl⟩ := (agrees held).mp found
    have same {call' : Call} {token' : Document} {seconds' : Int}
        (h : Latest credentials calls scope call' token' seconds') : token' = token := by
      have again := (agrees _).mpr ⟨call', token', seconds', h, rfl⟩
      exact congrArg HeldToken.token (Option.some.inj (again.symm.trans found))
    exact {
      kept := fun call' token' seconds' h _ => ⟨congrArg Except.ok (same h).symm, rfl⟩
      fetched := fun stale => absurd fresh (stale call token seconds latest)
      silent := fun url _ => ⟨fun _ => ⟨call, token, seconds, latest, fresh⟩, fun _ => rfl⟩
      unchanged := fun failure failed => by cases failed
      others := fun other _ => rfl
      unrounded := unrounded }
  | fetched stale fetches =>
    have old {call : Call} {token : Document} {seconds : Int}
        (h : Latest credentials calls scope call token seconds) :
        ¬Usable world.clock call.world.clock seconds := by
      intro usable
      have fresh : isFresh world.clock (heldFrom scope token call.world.clock seconds) = true :=
        usable
      rw [stale _ ((agrees _).mpr ⟨call, token, seconds, h, rfl⟩)] at fresh
      cases fresh
    exact {
      kept := fun call token seconds h usable => absurd usable (old h)
      fetched := fun _ => fetches
      silent := fun url place => by
        rw [fetches_requests fetches place]
        constructor
        · intro same
          simp at same
        · rintro ⟨call, token, seconds, h, usable⟩
          exact absurd usable (old h)
      unchanged := fun failure failed => by
        subst failed
        exact fetches_unchanged fetches
      others := fun other apart => fetches_others fetches apart
      unrounded := unrounded }

/-- A token whose request takes half a minute, and that is asked for again when one second more
than a minute is left of the hour that began before the request. -/
theorem obtain_remembers_again :
    ∃ credentials calls world token,
      Past credentials calls world ∧ calls.length = 1 ∧ world.clock = .ofInt 4539 ∧
      (obtain credentials "s").run world = (.ok token, world) := by
  let credentials : Credentials := ⟨some "t", some "c", some "p"⟩
  let answer : Response := ⟨200, [],
    Text.Utf8.encode "\x7b\"access_token\":\"a\",\"expires_in\":3600\x7d", none, none, 100⟩
  let world (early late : Binary64) : World :=
    { World.fresh [.response answer] early none with
      time := fun done => if done = 0 then early else late }
  let start := world (.ofInt 1000) (.ofInt 1030)
  have lives : ((requestUrl (address credentials) none).toOption.bind fun url =>
      (granted credentials "s" url start).toOption.map Prod.snd) = some 3600 := by
    decide +kernel
  obtain ⟨url, place, lives⟩ := Option.bind_eq_some_iff.mp lives
  obtain ⟨⟨token, seconds⟩, found, hour⟩ := Option.map_eq_some_iff.mp lives
  have place := Url.ok_of_toOption place
  have found := Url.ok_of_toOption found
  dsimp only at hour
  subst hour
  have begun : Past credentials [] start := .start rfl
  have reads (early late : Binary64) : (world early late).clock = early := rfl
  have opens : start.clock = .ofInt 1000 := reads _ _
  clear_value start credentials
  have fetches := (obtain_remembers begun "s").fetched fun _ _ _ latest => absurd latest latest_nil
  rcases ran : (obtain credentials "s").run start with ⟨result, after⟩
  rw [ran] at fetches
  dsimp only at fetches
  cases fetches with
  | unaddressed nowhere => cases place.symm.trans nowhere
  | failed place' bad =>
    cases place.symm.trans place'
    cases found.symm.trans bad
  | stored place' found' =>
    cases place.symm.trans place'
    cases found.symm.trans found'
    have fetched := stored_fetched ran (requests_spend start _) place found
    have called := begun.call "s"
    unfold Call.result at called
    dsimp only at called
    rw [ran] at called
    -- All times are whole numbers of seconds, and so exact.
    have whole {n : Int} (h : n.natAbs < 2 ^ 53) : (Binary64.ofInt n).units? =
        some (n * (Binary64.one : Int)) := Binary64.whole_exact h
    have exact : IsExactFrom (1000 * Binary64.one) 3600 := by
      refine ⟨Binary64.whole_exact (by decide), ?_, ?_⟩
      · rw [← Int.add_mul]
        exact Binary64.whole_exact (by decide)
      · rw [← Int.add_mul, ← Int.sub_mul]
        exact Binary64.whole_exact (by decide)
    have passes (now : Binary64) :
        ∃ world, Past credentials [⟨"s", start⟩] world ∧ world.clock = now :=
      ⟨{ start.spend (post credentials "s" url) with
        time := fun _ => now
        tokens := keep (heldFrom "s" token start.clock 3600) start.tokens }, called.pass rfl, rfl⟩
    obtain ⟨world, past, shows⟩ := passes (.ofInt 4539)
    have shown : world.clock.units? = some (4539 * (Binary64.one : Int)) := by
      rw [shows]
      exact whole (by decide)
    have began : start.clock.units? = some (1000 * (Binary64.one : Int)) := by
      rw [opens]
      exact whole (by decide)
    have early : 4539 * (Binary64.one : Int) < 1000 * Binary64.one + (3600 - 60) * Binary64.one := by
      obtain ⟨k, scale, -⟩ := Binary64.one_limit
      have pos := Nat.two_pow_pos k
      rw [← scale] at pos
      generalize Binary64.one = one at pos
      omega
    have latest : Latest credentials ([] ++ [⟨"s", start⟩]) "s" ⟨"s", start⟩ token 3600 :=
      latest_snoc.mpr (.inl ⟨rfl, rfl, fetched⟩)
    have remembers := obtain_remembers past "s"
    have usable : Usable world.clock start.clock 3600 :=
      (remembers.unrounded _ _ _ _ _ latest began shown exact).mpr early
    obtain ⟨returned, same⟩ := remembers.kept _ _ _ latest usable
    exact ⟨credentials, _, world, token, past, rfl, shows, Prod.ext returned same⟩

end LakeAdmin.Token
