import LakeAdmin.Proofs.Client.Sending
import LakeAdmin.Proofs.Http.Pages
import LakeAdmin.Proofs.Service.Listing
import LakeAdmin.Proofs.Service.Sparing
import LakeAdmin.Service.Explorer

/-!
What a client hears who walks a list: the responses to its requests, in their order, each of
them a page that names the next one, but for the last. A walk of which every request brings a
response is told by these responses alone: it hands on the items of their pages, or ends with
what is wrong with the last of them.
-/

namespace LakeAdmin

open Http Text Url

def Http.Response.resources (response : Response) : Except Failure (Page Resource) :=
  response.page Resource.check listSuccess

/-- A response holds a page if its status is 200 and its body is the document of one. -/
theorem resources_ok {response : Response} {page : Page Resource} :
    response.resources = .ok page ↔ response.status = 200 ∧
      ∃ document, Json.ofBytes response.levels response.body = .ok document ∧
        Page.check Resource.check document = .valid page := by
  unfold Response.resources
  rw [page_ok, listSuccess, List.mem_singleton]

/-- Asks for a page: for the first one at the path of the list, for any other at its link. -/
def Client.askPage (client : Client) (operation : ListOperation) (path : String)
    (query : Option QueryOptions) : Option Wide → Action Response
  | none => client.send operation.method path (queryParams query) .null []
  | some link => client.follow link

theorem fetchPage_ask (client : Client) (operation : ListOperation) (path : String)
    (query : Option QueryOptions) (token : Option Wide) (world : World) :
    client.fetchPage operation path (queryParams query) token world =
      (client.askPage operation path query token >>= fun response =>
        Action.ofExcept id response.resources).run world := by
  cases token <;> rfl

/-- A turn that brings a response sends one request, and takes a reply off the queue. -/
theorem turn_answered {client : Client} {method reference : String}
    {params : Option (List (String × String))} {json : Json} {before after : World}
    {response : Response}
    (h : client.Turn method reference params json before (.ok response) after) :
    (∃ request, after.deeds = before.deeds ++ [.asked request]) ∧
      after.replies.length < before.replies.length := by
  generalize he : (Except.ok response : Except Failure Response) = result at h
  cases h with
  | unsent => cases he
  | @sent request left _ asks leaves deeds replies =>
    have taken := outcome_ok_length he.symm
    have others := leaves_length leaves
    rw [← replies] at taken
    exact ⟨⟨request, deeds⟩, by omega⟩

theorem askPage_answered {client : Client} {operation : ListOperation} {path : String}
    {query : Option QueryOptions} {token : Option Wide} {world after : World}
    {response : Response}
    (asked : (client.askPage operation path query token).run world = (.ok response, after))
    (named : token ≠ some (.plain "")) :
    (∃ request, after.deeds = world.deeds ++ [.asked request]) ∧
      after.replies.length < world.replies.length := by
  cases token with
  | none =>
    have turn := send_turn client operation.method path (queryParams query) .null [] world
    rw [show (client.send operation.method path (queryParams query) .null []).run world =
      (.ok response, after) from asked] at turn
    exact turn_answered turn
  | some link =>
    cases link with
    | plain link =>
      have filled : link ≠ "" := fun h => named (by rw [h])
      have turn := fetchNext_turn client filled world
      rw [show (client.fetchNext link).run world = (.ok response, after) from asked] at turn
      exact turn_answered turn
    | ragged text => cases asked

theorem spares_askPage (client : Client) (operation : ListOperation) (path : String)
    (query : Option QueryOptions) (token : Option Wide) :
    Action.Spares (client.askPage operation path query token) := by
  cases token with
  | none => exact spares_send client _ _ _ _ _
  | some link => exact spares_follow client link

/-! ## Walks -/

/-- The responses that a client hears who walks a list from a token on. -/
inductive Client.Hears (client : Client) (operation : ListOperation) (path : String)
    (query : Option QueryOptions) : Option Wide → World → List Response → World → Prop
  /-- The response holds no page, and the walk ends with it. -/
  | failed {token : Option Wide} {world after : World} {response : Response} {failure : Failure}
      (asked : (client.askPage operation path query token).run world = (.ok response, after))
      (bad : response.resources = .error failure) :
      Client.Hears client operation path query token world [response] after
  /-- The page names no other, and the walk ends with it. -/
  | last {token : Option Wide} {world after : World} {response : Response}
      {page : Page Resource}
      (asked : (client.askPage operation path query token).run world = (.ok response, after))
      (good : response.resources = .ok page) (ends : page.continuation = none) :
      Client.Hears client operation path query token world [response] after
  /-- The page names another, and the walk goes on there. -/
  | next {token : Option Wide} {world after final : World} {response : Response}
      {page : Page Resource} {link : Wide} {responses : List Response}
      (asked : (client.askPage operation path query token).run world = (.ok response, after))
      (good : response.resources = .ok page) (continues : page.continuation = some link)
      (rest : Client.Hears client operation path query (some link) after responses final) :
      Client.Hears client operation path query token world (response :: responses) final

theorem map_ok {α β : Type} {f : α → β} {x : Except Failure α} {b : β}
    (h : x.map f = .ok b) : ∃ a, x = .ok a ∧ f a = b := by
  cases x with
  | error failure => cases h
  | ok a => exact ⟨a, rfl, Except.ok.inj h⟩

theorem map_error {α β : Type} {f : α → β} {x : Except Failure α} {failure : Failure}
    (h : x.map f = .error failure) : x = .error failure := by
  cases x with
  | error other =>
    cases h
    rfl
  | ok a => cases h

/-- The items of the pages that responses hold, or what is wrong with the first response that
holds none. -/
def itemsOf (responses : List Response) : Except Failure (List Resource) :=
  (responses.mapM Response.resources).map fun pages => pages.flatMap Page.items

theorem itemsOf_single (response : Response) :
    itemsOf [response] = response.resources.map Page.items := by
  unfold itemsOf
  cases h : response.resources <;> simp [h, Except.map, bind, Except.bind, pure, Except.pure]

theorem itemsOf_cons (response : Response) (responses : List Response) :
    itemsOf (response :: responses) = response.resources.bind fun page =>
      (itemsOf responses).map (page.items ++ ·) := by
  unfold itemsOf
  cases h : response.resources with
  | error failure => simp [h, Except.map, bind, Except.bind]
  | ok page =>
    cases hr : responses.mapM Response.resources <;>
      simp [h, hr, Except.map, bind, Except.bind, pure, Except.pure]

variable {client : Client} {operation : ListOperation} {path : String}
  {query : Option QueryOptions} {token : Option Wide} {world after : World}
  {responses : List Response}

theorem result_after (walk : Walk Failure Resource) (token : Option Wide)
    (items : List Resource) :
    (walk.after (.fetch token :: items.map .deliver)).result =
      walk.result.map (items ++ ·) := by
  have whole := walk.result_after (pageStretch token items)
  rwa [pageStretch_delivered] at whole

theorem result_page (token : Option Wide) (items : List Resource) :
    Walk.result (⟨.fetch token :: items.map .deliver, .exhausted⟩ : Walk Failure Resource) =
      .ok items := by
  show Except.ok (pageStretch token items).delivered = _
  rw [pageStretch_delivered]

/-- The stretch of a walk from a page on whose request brings a response. -/
theorem walkFrom_asked {response : Response}
    (asked : (client.askPage operation path query token).run world = (.ok response, after))
    (leave seen : Nat) :
    Pager.walkFrom ⟨client.fetchPage operation path (queryParams query), none⟩ Page.items
      (leave + 1) seen none token world =
      match response.resources with
      | .error failure => (⟨[.fetch token], .failed failure⟩, after)
      | .ok page =>
        match page.continuation with
        | none => (⟨.fetch token :: page.items.map .deliver, .exhausted⟩, after)
        | some link =>
          let rest := Pager.walkFrom ⟨client.fetchPage operation path (queryParams query), none⟩
            Page.items leave (seen + 1) none (some link) after
          (rest.1.after (.fetch token :: page.items.map .deliver), rest.2) := by
  have fetched : client.fetchPage operation path (queryParams query) token world =
      (response.resources, after) := by
    rw [fetchPage_ask, Action.run_bind_ok asked, Action.run_ofExcept]
  cases read : response.resources with
  | error failure =>
    rw [read] at fetched
    exact Pager.walkFrom_failed fetched leave seen none
  | ok page =>
    rw [read] at fetched
    exact Pager.walkFrom_page fetched leave seen

/-- A walk ends where no response comes. -/
theorem walkFrom_unasked {failure : Failure}
    (asked : (client.askPage operation path query token).run world = (.error failure, after))
    (leave seen : Nat) :
    Pager.walkFrom ⟨client.fetchPage operation path (queryParams query), none⟩ Page.items
      (leave + 1) seen none token world = (⟨[.fetch token], .failed failure⟩, after) := by
  have fetched : client.fetchPage operation path (queryParams query) token world =
      (.error failure, after) := by
    rw [fetchPage_ask, Action.run_bind_error asked]
  exact Pager.walkFrom_failed fetched leave seen none

/-- A walk does what its responses say. The induction is on these, and each of them takes a
reply off the queue, so the leave to fetch lasts. -/
theorem hears_walk (h : client.Hears operation path query token world responses after)
    (leave seen : Nat) (enough : world.replies.length < leave) (named : token ≠ some (.plain "")) :
    (Pager.walkFrom ⟨client.fetchPage operation path (queryParams query), none⟩ Page.items
      leave seen none token world).1.result = itemsOf responses ∧
    (Pager.walkFrom ⟨client.fetchPage operation path (queryParams query), none⟩ Page.items
      leave seen none token world).2 = after := by
  induction h generalizing leave seen with
  | failed asked bad =>
    obtain ⟨leave, rfl⟩ := Nat.exists_eq_succ_of_ne_zero (Nat.ne_zero_of_lt enough)
    rw [walkFrom_asked asked, itemsOf_single, bad]
    exact ⟨rfl, rfl⟩
  | @last token _ _ _ page asked good ends =>
    obtain ⟨leave, rfl⟩ := Nat.exists_eq_succ_of_ne_zero (Nat.ne_zero_of_lt enough)
    rw [walkFrom_asked asked, itemsOf_single, good]
    dsimp only
    rw [ends]
    exact ⟨result_page token page.items, rfl⟩
  | @next _ _ _ _ _ page _ _ asked good continues rest ih =>
    obtain ⟨leave, rfl⟩ := Nat.exists_eq_succ_of_ne_zero (Nat.ne_zero_of_lt enough)
    have shorter := (askPage_answered asked named).2
    obtain ⟨result, left⟩ := ih leave (seen + 1) (by omega)
      fun h => continuation_ne continues (Option.some.inj h)
    rw [walkFrom_asked asked, itemsOf_cons, good]
    dsimp only
    rw [continues]
    dsimp only
    rw [result_after, result]
    exact ⟨rfl, left⟩

/-- One request is sent for each response. -/
theorem hears_deeds (h : client.Hears operation path query token world responses after)
    (named : token ≠ some (.plain "")) :
    ∃ requests : List Request, requests.length = responses.length ∧
      after.deeds = world.deeds ++ requests.map .asked := by
  induction h with
  | failed asked bad =>
    obtain ⟨⟨request, deeds⟩, -⟩ := askPage_answered asked named
    exact ⟨[request], rfl, deeds⟩
  | last asked good ends =>
    obtain ⟨⟨request, deeds⟩, -⟩ := askPage_answered asked named
    exact ⟨[request], rfl, deeds⟩
  | next asked good continues rest ih =>
    obtain ⟨⟨request, deeds⟩, -⟩ := askPage_answered asked named
    obtain ⟨requests, count, later⟩ := ih fun h => continuation_ne continues (Option.some.inj h)
    exact ⟨request :: requests, by simp [count], by simp [later, deeds]⟩

/-- All responses but the last one are pages. -/
theorem hears_pages (h : client.Hears operation path query token world responses after) :
    ∃ before last, responses = before ++ [last] ∧
      ∀ response ∈ before, ∃ page, response.resources = .ok page := by
  induction h with
  | failed asked bad => exact ⟨[], _, rfl, by simp⟩
  | last asked good ends => exact ⟨[], _, rfl, by simp⟩
  | @next _ _ _ _ response page _ _ asked good continues rest ih =>
    obtain ⟨before, last, rfl, pages⟩ := ih
    exact ⟨response :: before, last, rfl, by simpa using ⟨⟨page, good⟩, pages⟩⟩

/-- A walk to the end of a list has heard its items. -/
theorem walk_hears {items : List Resource} (leave seen : Nat)
    (enough : world.replies.length < leave) (named : token ≠ some (.plain ""))
    (walked : (Pager.walkFrom ⟨client.fetchPage operation path (queryParams query), none⟩
      Page.items leave seen none token world).1.result = .ok items) :
    ∃ responses after, client.Hears operation path query token world responses after ∧
      itemsOf responses = .ok items := by
  induction leave generalizing seen token world items with
  | zero => omega
  | succ leave ih =>
    rcases asked : (client.askPage operation path query token).run world with
      ⟨failure | response, after⟩
    · rw [walkFrom_unasked asked] at walked
      cases walked
    · rw [walkFrom_asked asked] at walked
      have shorter := (askPage_answered asked named).2
      cases good : response.resources with
      | error failure =>
        rw [good] at walked
        cases walked
      | ok page =>
        rw [good] at walked
        dsimp only at walked
        cases continues : page.continuation with
        | none =>
          rw [continues] at walked
          dsimp only at walked
          rw [result_page] at walked
          refine ⟨[response], after, .last asked good continues, ?_⟩
          rw [itemsOf_single, good]
          exact walked
        | some link =>
          rw [continues] at walked
          dsimp only at walked
          rw [result_after] at walked
          obtain ⟨others, rest, rfl⟩ := map_ok walked
          obtain ⟨responses, final, hears, items⟩ := ih (seen + 1) (by omega)
            (fun h => continuation_ne continues (Option.some.inj h)) rest
          refine ⟨response :: responses, final, .next asked good continues hears, ?_⟩
          rw [itemsOf_cons, good, items]
          rfl

/-- A response that holds the only page of a list. -/
theorem only_page {response : Response}
    (h : response.resources.toOption.map Page.continuation = some none) :
    ∃ page, response.resources = .ok page ∧ page.continuation = none := by
  obtain ⟨page, good, ends⟩ := Option.map_eq_some_iff.mp h
  exact ⟨page, ok_of_toOption good, ends⟩

/-- A page sends nobody elsewhere. -/
theorem page_stays {response : Response} {page : Page Resource}
    (good : response.resources = .ok page) : response.redirects = false := by
  unfold Response.redirects
  rw [(resources_ok.mp good).1]
  rfl

theorem resources_asked {response : Response} {page : Page Resource}
    (asked : Option (String × String)) :
    Response.resources { response with request := asked } = .ok page ↔
      response.resources = .ok page := by
  rw [resources_ok, resources_ok]

/-- An open client hears the next reply, if the path is reached and that reply sends nobody
elsewhere; with it the walk ends, unless it is a page that names another. -/
theorem hears_first (operation : ListOperation) {base : Url} (reaches : client.Reaches base path)
    (ready : client.IsOpen) {response : Response} {rest : List Reply}
    (replies : world.replies = .response response :: rest) (stays : response.redirects = false)
    (ends : ∀ page, response.resources = .ok page → page.continuation = none) :
    ∃ asked after, client.Hears operation path none none world
        [{ response with request := some asked }] after ∧ after.replies = rest := by
  have value : Client.bodyOf .null = .ok .none := rfl
  obtain ⟨asked, after, sent, left⟩ :=
    send_answered reaches ready value operation.method [] replies stays
  refine ⟨asked, after, ?_, left⟩
  cases good : Response.resources { response with request := some asked } with
  | error failure => exact .failed sent good
  | ok page => exact .last sent good (ends page ((resources_asked _).mp good))

/-- The cache is not touched while a walk is heard. -/
theorem hears_spares (h : client.Hears operation path query token world responses after)
    (named : token ≠ some (.plain "")) : World.Spared world after := by
  obtain ⟨-, left⟩ := hears_walk h _ 0 (Nat.lt_succ_self _) named
  rw [← left]
  exact walkFrom_spares (spares_fetchPage client operation path (queryParams query)) Page.items _
    0 none token world

/-! ## Whole lists -/

namespace Explorer

/-- All items of a list are those that are heard. -/
theorem collect_heard (h : client.Hears operation path query none world responses after) :
    (collect ⟨client.fetchPage operation path (queryParams query), none⟩).run world =
      (itemsOf responses, after) := by
  obtain ⟨result, left⟩ := hears_walk h world.leave 0 (Nat.lt_succ_self _) nofun
  exact Prod.ext result left

def AccountsAt (client : Client) (sub : Option String) (query : Option QueryOptions)
    (path : String) : Prop :=
  client.operationPath Path.accounts (some { Identity.empty with subscription := sub }) query [] =
    .ok path

/-- The accounts of a subscription as a client hears them whose settings are the standard ones. -/
theorem standard_hears {response : Response} {rest : List Reply}
    (replies : world.replies = .response response :: rest) (stays : response.redirects = false)
    (ends : ∀ page, response.resources = .ok page → page.continuation = none) :
    ∃ path asked after, AccountsAt (Client.ofSettings .standard) (some "s") none path ∧
      (Client.ofSettings .standard).Hears .accounts path none none world
        [{ response with request := some asked }] after ∧ after.replies = rest := by
  obtain ⟨path, placed⟩ :
      ∃ path, AccountsAt (Client.ofSettings .standard) (some "s") none path := ⟨_, rfl⟩
  have reaches := standard_place (by decide) (by decide) placed (by decide +kernel)
  obtain ⟨asked, after, hears, left⟩ := hears_first .accounts reaches standard_open replies stays
    ends
  exact ⟨path, asked, after, placed, hears, left⟩

/-- What is heard of the accounts of a subscription is stored, if all of it is pages, and at the
time at which all of it is there. -/
theorem refresh_heard {sub : Option String} (placed : AccountsAt client sub query path)
    (h : client.Hears .accounts path query none world responses after) :
    ∃ final, (refresh client sub query).run world = (itemsOf responses, final) ∧
      after.Quiet final ∧ final.replies = after.replies ∧
      final.lists = match itemsOf responses with
        | .ok accounts => world.lists.put final.clock (listKey sub query) (some accounts)
        | .error _ => world.lists := by
  have spared := hears_spares h nofun
  unfold refresh
  dsimp only
  rw [list_run .accounts placed, Action.run_bind, collect_heard h]
  cases itemsOf responses with
  | error failure => exact ⟨after, rfl, quiet_same rfl, rfl, spared.lists⟩
  | ok accounts =>
    refine ⟨_, rfl, ⟨[.listed accounts.length sub], rfl⟩, rfl, ?_⟩
    dsimp only
    rw [← spared.lists]
    rfl

/-- A list of one page is stored, where its place is reached. -/
theorem placed_stored {base : Url} {sub : Option String} (placed : AccountsAt client sub none path)
    (reaches : client.Reaches base path) (ready : client.IsOpen) {response : Response}
    {rest : List Reply} {page : Page Resource}
    (replies : world.replies = .response response :: rest)
    (good : response.resources = .ok page) (ends : page.continuation = none) :
    ∃ final, (refresh client sub none).run world = (.ok page.items, final) ∧
      final.replies = rest ∧
      final.lists = world.lists.put final.clock (listKey sub none) (some page.items) := by
  obtain ⟨asked, after, hears, left⟩ := hears_first .accounts reaches ready replies
    (page_stays good) fun other read => Except.ok.inj (good.symm.trans read) ▸ ends
  have items : itemsOf [{ response with request := some asked }] = .ok page.items := by
    rw [itemsOf_single, (resources_asked _).mpr good]
    rfl
  obtain ⟨final, ran, -, same, lists⟩ := refresh_heard placed hears
  rw [items] at ran lists
  exact ⟨final, ran, same.trans left, lists⟩

/-- So it is by such a client. -/
theorem standard_stored {response : Response} {rest : List Reply} {page : Page Resource}
    (replies : world.replies = .response response :: rest) (good : response.resources = .ok page)
    (ends : page.continuation = none) :
    ∃ path final, AccountsAt (Client.ofSettings .standard) (some "s") none path ∧
      (refresh (Client.ofSettings .standard) (some "s") none).run world =
        (.ok page.items, final) ∧ final.replies = rest ∧
      final.lists =
        world.lists.put final.clock (listKey (some "s") none) (some page.items) := by
  obtain ⟨path, placed⟩ :
      ∃ path, AccountsAt (Client.ofSettings .standard) (some "s") none path := ⟨_, rfl⟩
  have reaches := standard_place (by decide) (by decide) placed (by decide +kernel)
  obtain ⟨final, stored⟩ := placed_stored placed reaches standard_open replies good ends
  exact ⟨path, final, placed, stored⟩

end Explorer

end LakeAdmin
