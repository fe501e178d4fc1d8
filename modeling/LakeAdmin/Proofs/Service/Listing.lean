import LakeAdmin.Proofs.Client.Request
import LakeAdmin.Proofs.Pager
import LakeAdmin.Proofs.Service.Stages

/-!
What walking a list does. `Listing` says which traces a list may have: the first page is
asked for with the method, path and options of the operation, every further page with a
plain read of the link that the page before it names; all items of a page are handed on
before the next page is asked for; and the walk ends behind a page without a link, with
the first failure, or when the caller has had enough.

Every walk has such a trace, whatever the replies are and however many of them there are.
-/

namespace LakeAdmin

open Http

/-! ## Parameters of the first request -/

theorem insert_fresh (name : String) (value : Json) (members : Members)
    (h : ∀ member ∈ members, member.1 ≠ name) :
    members.insert name value = members ++ [(name, value)] := by
  induction members with
  | nil => rfl
  | cons member rest ih =>
    have hm : (member.1 == name) = false := by simpa using h member (by simp)
    simp only [Members.insert, hm, Bool.false_eq_true, ↓reduceIte, List.cons_append]
    rw [ih fun other ho => h other (by simp [ho])]

theorem toParams_fresh (query : QueryOptions) :
    ∀ pair ∈ query.toParams, pair.1 ≠ "api-version" := by
  intro pair hp
  simp only [QueryOptions.toParams, List.mem_filterMap, List.mem_cons, List.not_mem_nil,
    or_false, Option.map_eq_some_iff] at hp
  obtain ⟨_, h | h | h | h | h | h, _, _, rfl⟩ := hp <;> subst h <;> simp

theorem paramPairs_texts (pairs : List (String × String)) :
    Client.paramPairs (pairs.map fun pair => (pair.1, .str pair.2)) = pairs := by
  induction pairs with
  | nil => rfl
  | cons pair rest ih =>
    simp only [Client.paramPairs, List.map_cons, List.flatMap_cons] at ih ⊢
    rw [ih]
    rfl

/-- The options of a list, in order, and the version behind them. -/
def Client.listParams (client : Client) (query : Option QueryOptions) : List (String × String) :=
  query.elim [] QueryOptions.toParams ++ [("api-version", client.apiVersion)]

theorem paramPairs_list (client : Client) (query : Option QueryOptions) :
    Client.paramPairs ((queryParams query).insert "api-version" (.str client.apiVersion)) =
      client.listParams query := by
  have fresh : ∀ member ∈ queryParams query, member.1 ≠ "api-version" := by
    intro member hm
    cases query with
    | none => simp [queryParams] at hm
    | some options =>
      obtain ⟨pair, hp, rfl⟩ := List.mem_map.mp hm
      exact toParams_fresh options pair hp
  rw [insert_fresh _ _ _ fresh]
  unfold Client.listParams
  rw [← paramPairs_texts (query.elim [] QueryOptions.toParams ++ _), List.map_append]
  rfl

/-! ## One page -/

/-- The request for a page: the first one at the path of the list, with its options; the
one of a link at that link, with nothing beside it. -/
def Client.AsksForPage (client : Client) (operation : ListOperation) (path : String)
    (query : Option QueryOptions) : Option Wide → Request → Prop
  | none => client.Asks operation.method path (some (client.listParams query)) .null
  | some (.plain link) => client.Asks "GET" link none .null
  | some (.ragged _) => fun _ => False

def Client.PageUnsent (client : Client) (path : String) (query : Option QueryOptions) :
    Option Wide → Failure → Prop
  | none => client.Unsent path (some (client.listParams query)) .null
  | some (.plain link) => client.Unsent link none .null
  | some (.ragged _) => fun failure => failure = .notUnicode

/-- What comes of a request for a page: a page, if there is a response and it holds one. -/
def pageOutcome (request : Request) (replies : List Reply) : Except Failure (Page Resource) :=
  (outcome request replies).bind (Response.page Resource.check listSuccess)

theorem pageOutcome_ok_length {request : Request} {replies : List Reply} {page : Page Resource}
    (h : pageOutcome request replies = .ok page) : replies.tail.length < replies.length := by
  unfold pageOutcome at h
  cases ho : outcome request replies with
  | error failure => simp [ho, Except.bind] at h
  | ok response => exact outcome_ok_length ho

/-- What becomes of a world while a page is fetched, and what comes of it. -/
inductive Client.PageTurn (client : Client) (operation : ListOperation) (path : String)
    (query : Option QueryOptions) (token : Option Wide) (before : World) :
    Except Failure (Page Resource) → World → Prop
  | unsent {failure : Failure} {after : World}
      (why : client.PageUnsent path query token failure) (deeds : after.deeds = before.deeds) :
      Client.PageTurn client operation path query token before (.error failure) after
  | sent {request : Request} {left : List Reply} {after : World}
      (asks : client.AsksForPage operation path query token request)
      (leaves : client.Leaves before.replies left)
      (deeds : after.deeds = before.deeds ++ [.asked request])
      (replies : after.replies = left.tail) :
      Client.PageTurn client operation path query token before (pageOutcome request left) after

/-- A turn that asks for a page, with the reading of the page behind it. -/
theorem page_turn {client : Client} {operation : ListOperation} {path : String}
    {query : Option QueryOptions} {token : Option Wide} {method reference : String}
    {params : Option (List (String × String))} {fetch : Action Response} {world : World}
    (turn : client.Turn method reference params .null world (fetch.run world).1
      (fetch.run world).2)
    (asked : ∀ request, client.Asks method reference params .null request →
      client.AsksForPage operation path query token request)
    (unsent : ∀ failure, client.Unsent reference params .null failure →
      client.PageUnsent path query token failure) :
    client.PageTurn operation path query token world
      ((fetch >>= fun response =>
        Action.ofExcept id (response.page Resource.check listSuccess)).run world).1
      ((fetch >>= fun response =>
        Action.ofExcept id (response.page Resource.check listSuccess)).run world).2 := by
  rw [Action.run_bind]
  rcases hf : fetch.run world with ⟨result, after⟩
  rw [hf] at turn
  dsimp only at turn
  clear hf
  cases turn with
  | unsent why deeds left => exact .unsent (unsent _ why) deeds
  | @sent request left _ asks leaves deeds replies =>
    have page := Client.PageTurn.sent (asked _ asks) leaves deeds replies
    unfold pageOutcome at page
    cases ho : outcome request left with
    | error failure => rwa [ho] at page
    | ok response =>
      rw [ho] at page
      dsimp only
      rw [Action.run_ofExcept]
      exact page

theorem fetchPage_turn (client : Client) (operation : ListOperation) (path : String)
    (query : Option QueryOptions) {token : Option Wide} (ht : token ≠ some (.plain ""))
    (world : World) :
    client.PageTurn operation path query token world
      (client.fetchPage operation path (queryParams query) token world).1
      (client.fetchPage operation path (queryParams query) token world).2 := by
  cases token with
  | none =>
    have turn := send_turn client operation.method path (queryParams query) .null [] world
    rw [paramPairs_list] at turn
    exact page_turn turn (fun _ h => h) (fun _ h => h)
  | some link =>
    cases link with
    | plain link =>
      have hl : link ≠ "" := fun h => ht (by rw [h])
      exact page_turn (fetchNext_turn client hl world) (fun _ h => h) (fun _ h => h)
    | ragged text => exact .unsent rfl rfl

/-- A page that is fetched is what comes of a request for it. -/
theorem page_fetched {client : Client} {operation : ListOperation} {path : String}
    {query : Option QueryOptions} {token : Option Wide} {world after : World}
    {page : Page Resource} (named : token ≠ some (.plain ""))
    (fetched : client.fetchPage operation path (queryParams query) token world =
      (.ok page, after)) :
    ∃ request left, client.AsksForPage operation path query token request ∧
      client.Leaves world.replies left ∧ pageOutcome request left = .ok page ∧
      after.deeds = world.deeds ++ [.asked request] ∧ after.replies = left.tail := by
  have turn := fetchPage_turn client operation path query named world
  rw [fetched] at turn
  dsimp only at turn
  generalize same : (Except.ok page : Except Failure (Page Resource)) = result at turn ⊢
  cases turn with
  | unsent why deeds => cases same
  | @sent request left _ asks leaves deeds replies =>
    exact ⟨request, left, asks, leaves, rfl, deeds, replies⟩

/-! ## A whole walk -/

/-- A step of a listing: a page is fetched, with the request that was sent for it, if it
came to that, or an item is handed on. -/
inductive ListingStep where
  | fetch (token : Option Wide) (request : Option Request)
  | deliver (item : Resource)

def ListingStep.walkStep : ListingStep → WalkStep Resource
  | fetch token _ => .fetch token
  | deliver item => .deliver item

def ListingStep.deed? : ListingStep → Option Deed
  | fetch _ request => request.map .asked
  | deliver _ => none

/-- The listings from a token on, with the replies that are to come, for a caller who
wants so many items, or all if no number is given. -/
inductive Client.Listing (client : Client) (operation : ListOperation) (path : String)
    (query : Option QueryOptions) :
    Option Nat → Option Wide → List Reply → List ListingStep → WalkEnd Failure → Prop
  /-- Nothing is fetched for a caller who wants nothing. -/
  | nothing {token : Option Wide} {queue : List Reply} :
      Client.Listing client operation path query (some 0) token queue [] .stopped
  /-- The page cannot be asked for: its link is no URL, or there is no token. -/
  | unsent {demand : Option Nat} {token : Option Wide} {queue : List Reply} {failure : Failure}
      (more : demand ≠ some 0) (why : client.PageUnsent path query token failure) :
      Client.Listing client operation path query demand token queue
        [.fetch token none] (.failed failure)
  /-- The page is asked for, and there is no response, or none that holds a page. -/
  | failed {demand : Option Nat} {token : Option Wide} {queue left : List Reply}
      {request : Request} {failure : Failure} (more : demand ≠ some 0)
      (leaves : client.Leaves queue left)
      (asks : client.AsksForPage operation path query token request)
      (bad : pageOutcome request left = .error failure) :
      Client.Listing client operation path query demand token queue
        [.fetch token (some request)] (.failed failure)
  /-- The caller has had enough with items of this page. -/
  | enough {count : Nat} {token : Option Wide} {queue left : List Reply} {request : Request}
      {page : Page Resource} (more : count ≠ 0) (leaves : client.Leaves queue left)
      (asks : client.AsksForPage operation path query token request)
      (good : pageOutcome request left = .ok page) (fits : count ≤ page.items.length) :
      Client.Listing client operation path query (some count) token queue
        (.fetch token (some request) :: (page.items.take count).map .deliver) .stopped
  /-- The page names no other: the walk ends behind its items. -/
  | last {demand : Option Nat} {token : Option Wide} {queue left : List Reply}
      {request : Request} {page : Page Resource} (leaves : client.Leaves queue left)
      (asks : client.AsksForPage operation path query token request)
      (good : pageOutcome request left = .ok page)
      (wanted : ∀ count ∈ demand, page.items.length < count)
      (ends : page.continuation = none) :
      Client.Listing client operation path query demand token queue
        (.fetch token (some request) :: page.items.map .deliver) .exhausted
  /-- The page names another: behind all its items the walk goes on there. -/
  | next {demand : Option Nat} {token : Option Wide} {queue left : List Reply}
      {request : Request} {page : Page Resource} {link : Wide} {steps : List ListingStep}
      {ending : WalkEnd Failure} (leaves : client.Leaves queue left)
      (asks : client.AsksForPage operation path query token request)
      (good : pageOutcome request left = .ok page)
      (wanted : ∀ count ∈ demand, page.items.length < count)
      (link_eq : page.continuation = some link)
      (rest : Client.Listing client operation path query (demand.map (· - page.items.length))
        (some link) left.tail steps ending) :
      Client.Listing client operation path query demand token queue
        (.fetch token (some request) :: page.items.map .deliver ++ steps) ending

/-- The steps over one page, as those of a walk. -/
theorem page_walkSteps (token : Option Wide) (request : Option Request)
    (items : List Resource) :
    (ListingStep.fetch token request :: items.map .deliver).map ListingStep.walkStep =
      .fetch token :: items.map .deliver := by
  simp [ListingStep.walkStep]

/-- The only deed over one page is the request for it. -/
theorem page_deeds (token : Option Wide) (request : Request) (items : List Resource) :
    (ListingStep.fetch token (some request) :: items.map .deliver).filterMap ListingStep.deed? =
      [.asked request] := by
  simp [ListingStep.deed?, List.filterMap_map, Function.comp_def]

def pageStretch (token : Option Wide) (items : List Resource) : Walk Failure Resource :=
  ⟨.fetch token :: items.map .deliver, .exhausted⟩

@[simp] theorem pageStretch_fetched (token : Option Wide) (items : List Resource) :
    (pageStretch token items).fetched = [token] :=
  congrArg (token :: ·) (Walk.fetched_elements items (WalkEnd.exhausted : WalkEnd Failure))

@[simp] theorem pageStretch_delivered (token : Option Wide) (items : List Resource) :
    (pageStretch token items).delivered = items :=
  Walk.delivered_elements items (WalkEnd.exhausted : WalkEnd Failure)

theorem fetched_after (walk : Walk Failure Resource) (token : Option Wide)
    (items : List Resource) :
    (walk.after (.fetch token :: items.map .deliver)).fetched = token :: walk.fetched := by
  have whole := walk.fetched_after (pageStretch token items)
  rwa [pageStretch_fetched] at whole

theorem delivered_after (walk : Walk Failure Resource) (token : Option Wide)
    (items : List Resource) :
    (walk.after (.fetch token :: items.map .deliver)).delivered = items ++ walk.delivered := by
  have whole := walk.delivered_after (pageStretch token items)
  rwa [pageStretch_delivered] at whole

/-- The walk from a page on has a listing. The induction is on the leave to fetch, which
never runs out: each page takes a reply off the queue. -/
theorem walkFrom_listing (client : Client) (operation : ListOperation) (path : String)
    (query : Option QueryOptions) (leave seen : Nat) (demand : Option Nat)
    (token : Option Wide) (world : World) (hl : world.replies.length < leave)
    (ht : token ≠ some (.plain "")) (hd : demand ≠ some 0) :
    ∃ steps,
      client.Listing operation path query demand token world.replies steps
        (Pager.walkFrom ⟨client.fetchPage operation path (queryParams query), none⟩ Page.items
          leave seen demand token world).1.ending ∧
      (Pager.walkFrom ⟨client.fetchPage operation path (queryParams query), none⟩ Page.items
        leave seen demand token world).1.steps = steps.map ListingStep.walkStep ∧
      (Pager.walkFrom ⟨client.fetchPage operation path (queryParams query), none⟩ Page.items
        leave seen demand token world).2.deeds =
          world.deeds ++ steps.filterMap ListingStep.deed? := by
  induction leave generalizing seen demand token world with
  | zero => omega
  | succ leave ih =>
    have stretch := Pager.walkFrom_stretch
      ⟨client.fetchPage operation path (queryParams query), none⟩ Page.items leave seen demand token
      world
    generalize Pager.walkFrom _ Page.items (leave + 1) seen demand token world = walked at stretch ⊢
    cases stretch with
    | @failed failure after fetched =>
      have turn := fetchPage_turn client operation path query ht world
      have result : client.fetchPage operation path (queryParams query) token world =
          (.error failure, after) := fetched
      rw [result] at turn
      dsimp only at turn
      generalize same : (Except.error failure : Except Failure (Page Resource)) = outcome at turn
      cases turn with
      | unsent why deeds =>
        cases same
        exact ⟨[.fetch token none], .unsent hd why, rfl, by simp [ListingStep.deed?, deeds]⟩
      | @sent request left _ asks leaves deeds replies =>
        exact ⟨[.fetch token (some request)], .failed hd leaves asks same.symm, rfl,
          by simp [ListingStep.deed?, deeds]⟩
    | @enough page after count fetched wants fits =>
      subst wants
      obtain ⟨request, left, asks, leaves, good, deeds, -⟩ := page_fetched ht fetched
      refine ⟨_, .enough (fun none => hd (none ▸ rfl)) leaves asks good fits,
        (page_walkSteps _ _ _).symm, ?_⟩
      rw [page_deeds]
      exact deeds
    | @last page after fetched wanted ends =>
      obtain ⟨request, left, asks, leaves, good, deeds, -⟩ := page_fetched ht fetched
      have bare : page.continuation = none := ends.resolve_right Bool.false_ne_true
      refine ⟨_, .last leaves asks good wanted bare, (page_walkSteps _ _ _).symm, ?_⟩
      rw [page_deeds]
      exact deeds
    | @next page link rest after final fetched wanted continues _ behind =>
      obtain ⟨request, left, asks, leaves, good, deeds, replies⟩ := page_fetched ht fetched
      have shorter : after.replies.length < leave := by
        have := pageOutcome_ok_length good
        have := leaves_length leaves
        rw [replies]
        omega
      have more : demand.map (· - page.items.length) ≠ some 0 := by
        intro spent
        obtain ⟨count, given, zero⟩ := Option.map_eq_some_iff.mp spent
        have := wanted count given
        omega
      obtain ⟨steps, listing, restSteps, restDeeds⟩ :=
        ih (seen + 1) (demand.map (· - page.items.length)) (some link) after shorter
          (fun same => continuation_ne continues (Option.some.inj same)) more
      rw [behind] at listing restSteps restDeeds
      rw [replies] at listing
      refine ⟨_, .next leaves asks good wanted continues listing, ?_, ?_⟩
      · rw [List.map_append, page_walkSteps, ← restSteps]
        rfl
      · rw [restDeeds, deeds, List.filterMap_append, page_deeds, List.append_assoc]

/-- Whoever walks a list asks for its first page with the method, path, options and
version of the operation, and for each further page with a plain read of the link of the
page before it, behind the last item of that page. The items handed on are those of the
pages, in their order, and the walk ends where the pages end, with the first failure as
it is, or with the last item that was wanted. -/
theorem items_listing {client : Client} {operation : ListOperation}
    {identity : Option Identity} {query : Option QueryOptions}
    {pager : Pager World Failure Resource}
    (h : client.list operation identity query = .ok pager)
    (demand : Option Nat) (token : Option Wide) (world : World) :
    ∃ path steps,
      client.operationPath operation.path identity query [] = .ok path ∧
      client.Listing operation path query demand (Pager.tokenOf token) world.replies steps
        (pager.items world.leave demand token world).1.ending ∧
      (pager.items world.leave demand token world).1.steps =
        steps.map ListingStep.walkStep ∧
      (pager.items world.leave demand token world).2.deeds =
        world.deeds ++ steps.filterMap ListingStep.deed? := by
  unfold Client.list at h
  cases hp : client.operationPath operation.path identity query [] with
  | error failure => simp [hp, bind, Except.bind] at h
  | ok path =>
    simp only [hp, bind, Except.bind, pure, Except.pure, Except.ok.injEq] at h
    subst h
    unfold Pager.items Pager.walk
    by_cases hd : demand = some 0
    · subst hd
      exact ⟨path, [], rfl, .nothing, rfl, by simp⟩
    · rw [if_neg hd]
      have ht : Pager.tokenOf token ≠ some (.plain "") := by
        intro he
        obtain ⟨-, hne⟩ := Option.filter_eq_some_iff.mp he
        simp at hne
      obtain ⟨steps, listing⟩ := walkFrom_listing client operation path query world.leave 0
        demand (Pager.tokenOf token) world (Nat.lt_succ_self _) ht hd
      exact ⟨path, steps, rfl, listing⟩

/-- The walk over the accounts of a subscription, on two pages of two items and of one. -/
theorem items_listing_pages :
    ∃ (client : Client) (pager : Pager World Failure Resource) (path : String)
      (steps : List ListingStep) (walk : Walk Failure Resource) (queue : List Reply)
      (after : World),
      client.list .accounts (some ⟨some "s", none, none, none, none⟩) none = .ok pager ∧
      pager.items 3 none none (World.fresh queue 1000 none) = (walk, after) ∧
      client.Listing .accounts path none none none queue steps walk.ending ∧
      walk.steps = steps.map ListingStep.walkStep ∧
      after.deeds = steps.filterMap ListingStep.deed? ∧
      walk.fetched = [none, some (.plain "https://a/p")] ∧
      walk.result.toOption.map (·.map Resource.name) =
        some [some (.plain "a"), some (.plain "b"), some (.plain "c")] ∧
      after.requests.map (fun request => (request.method, request.url.toText)) =
        [("GET", "https://a/subscriptions/s/providers/Microsoft.DataLakeAnalytics/accounts" ++
          "?api-version=1"), ("GET", "https://a/p")] := by
  let client := { Client.ofSettings .standard with baseUrl := "https://a/", apiVersion := "1" }
  let page (body : String) : Reply :=
    .response ⟨200, [], Text.Utf8.encode body, none, none, 100⟩
  let start := World.fresh [
    page ("\x7b\"value\":[\x7b\"name\":\"a\"\x7d,\x7b\"name\":\"b\"\x7d]," ++
      "\"nextLink\":\"https://a/p\"\x7d"),
    page "\x7b\"value\":[\x7b\"name\":\"c\"\x7d]\x7d"] 1000 none
  let list := client.list .accounts (some ⟨some "s", none, none, none, none⟩) none
  obtain ⟨pager, made⟩ : ∃ pager, list = .ok pager := ⟨_, rfl⟩
  have shown : list.toOption.map (fun pager =>
        let walked := pager.items 3 none none start
        (walked.1.fetched, walked.1.result.toOption.map (·.map Resource.name),
          walked.2.requests.map fun request => (request.method, request.url.toText))) =
      some ([none, some (.plain "https://a/p")],
        some [some (.plain "a"), some (.plain "b"), some (.plain "c")],
        [("GET", "https://a/subscriptions/s/providers/Microsoft.DataLakeAnalytics/accounts" ++
          "?api-version=1"), ("GET", "https://a/p")]) := by
    decide +kernel
  rw [made] at shown
  obtain ⟨fetched, shown⟩ := Prod.mk.inj (Option.some.inj shown)
  obtain ⟨delivered, requests⟩ := Prod.mk.inj shown
  obtain ⟨path, steps, -, listing, walkSteps, deeds⟩ := items_listing made none none start
  exact ⟨client, pager, path, steps, _, _, _, made, rfl, listing, walkSteps, deeds, fetched,
    delivered, requests⟩

end LakeAdmin
