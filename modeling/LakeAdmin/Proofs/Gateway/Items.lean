import LakeAdmin.Proofs.Gateway.Call
import LakeAdmin.Proofs.Service.Caching
import LakeAdmin.Proofs.Service.Receiving

/-!
The items of an answer. Whatever way a list takes through the gateway, page by page, as a whole
or by way of the cache, it shows the objects that the service sent, all of them, in their order
and without their null members. A list from the cache shows those that the service sent when it
was got.
-/

namespace LakeAdmin.Gateway

open Http Explorer Url

/-! ## Where items come from -/

def Call.IsList : Call → Prop
  | account _ => False
  | _ => True

/-- The responses that the accounts of a subscription were got out of, at a moment of the
past. -/
inductive Heard (client : Client) (path : String) :
    Moment → Option String → List Response → Prop
  | list {subscription : Option String} {refreshed : Bool} {world after : World}
      {responses : List Response} (sent : responses ≠ [])
      (hears : Call.Hears client (.cached path (subscriptionOf client subscription) refreshed)
        world responses after) :
      Heard client path ⟨.list subscription refreshed none, world⟩
        (subscriptionOf client subscription) responses

/-- The responses that the items of a call come from: those it hears, or, for a list that the
cache has, those that were heard at the moment that it was got. -/
inductive Call.Draws (client : Client) : Call → World → List Response → List Response → Prop
  | asked {call : Call} {world : World} {responses : List Response} (sent : responses ≠ []) :
      Call.Draws client call world responses responses
  | held {path : String} {sub : Option String} {world : World} {accounts : List Resource}
      {ttl : Option Binary64} {moments : List Moment} {moment : Moment} {drawn : List Response}
      (past : Past client ttl moments world) (found : heldList world sub = some accounts)
      (stands : Stands client moments sub none moment accounts)
      (heard : Heard client path moment sub drawn) :
      Call.Draws client (.cached path sub false) world [] drawn

/-- A document lists values: it says how many there are, and shows each without its null
members. Beside them there is at most the token of the next page. -/
inductive Enumerates (values : List Document) : Document → Prop
  | intro {items : List Document} {others : Members Wide}
      (pruned : List.Forall₂ Json.Pruned values items)
      (beside : ∀ member ∈ others, member.1 = "next_page_token") :
      Enumerates values (.obj (("ok", .bool true) :: ("count", .int values.length) ::
        ("items", .arr items) :: others))

/-- An answer lists values: it is such a document, and can be written. -/
def Answer.Lists (values : List Document) (answer : Answer) : Prop :=
  ∃ document, Enumerates values document ∧ answer = ⟨200, .json document, none, none, none⟩

variable {client : Client} {path : String} {sub : Option String} {world after : World}
  {responses drawn : List Response} {accounts : List Resource} {moment : Moment}

/-! ## Lists from the cache -/

/-- A list that is got by asking the service is what was heard. -/
theorem refresh_hears (ran : (refresh client sub none).run world = (.ok accounts, after)) :
    ∃ path responses final, AccountsAt client sub none path ∧
      client.Hears .accounts path none none world responses final := by
  obtain ⟨pager, ready, made, ran⟩ := Action.run_bind_ok_iff.mp ran
  obtain ⟨items, behind, collected, -⟩ := Action.run_bind_ok_iff.mp ran
  rw [Action.run_ofExcept] at made
  obtain ⟨listed, rfl⟩ := Prod.mk.inj made
  obtain ⟨path, placed, rfl⟩ := list_made listed
  have walked : (Pager.walkFrom ⟨client.fetchPage .accounts path (queryParams none), none⟩
      Page.items world.leave 0 none none world).1.result = .ok items :=
    congrArg Prod.fst collected
  have named : (none : Option Wide) ≠ some (.plain "") := nofun
  obtain ⟨responses, final, hears, -⟩ := walk_hears _ 0 (Nat.lt_succ_self _) named walked
  exact ⟨path, responses, final, placed, hears⟩

theorem hears_ne {operation : ListOperation} {query : Option QueryOptions}
    {token : Option Wide}
    (hears : client.Hears operation path query token world responses after) : responses ≠ [] := by
  obtain ⟨before, last, rfl, -⟩ := hears_pages hears
  simp

/-- A list that was got from the service was heard. -/
theorem walked_heard (walked : moment.Walked client sub none accounts)
    (placed : AccountsAt client sub none path) :
    ∃ drawn, Heard client path moment sub drawn := by
  cases walked with
  | @list subscription refreshed _ _ world after ran sent =>
    have asks (absent : refreshed = true ∨
        heldList world (subscriptionOf client subscription) = none)
        (again : (refresh client (subscriptionOf client subscription) none).run { world with
          lists := Call.looked world
            (.cached path (subscriptionOf client subscription) refreshed) } =
          (.ok accounts, after)) :
        ∃ drawn, Heard client path ⟨.list subscription refreshed none, world⟩
          (subscriptionOf client subscription) drawn := by
      obtain ⟨place, responses, final, found, hears⟩ := refresh_hears again
      cases found.symm.trans placed
      exact ⟨responses, .list (hears_ne hears) (.walked absent hears)⟩
    cases refreshed with
    | true => exact asks (.inl rfl) ran
    | false =>
      cases read : heldList world (subscriptionOf client subscription) with
      | none => exact asks (.inr read) ((listAccounts_missed client subscription read).symm.trans ran)
      | some items =>
        obtain ⟨entry, found, fresh, value⟩ := ListCache.get_some.mp read
        rw [listAccounts_held client subscription found
          ((ListCache.isExpired_fresh world.lists world.clock entry).mp fresh) value] at ran
        cases ran
        exact absurd rfl sent

/-- What was heard is the list that was got. -/
theorem heard_walked (walked : moment.Walked client sub none accounts)
    (heard : Heard client path moment sub drawn) (placed : AccountsAt client sub none path) :
    itemsOf drawn = .ok accounts := by
  cases heard with
  | list some hears =>
    cases walked with
    | list ran =>
      cases hears with
      | held => exact absurd rfl some
      | walked absent heard =>
        obtain ⟨final, again, -⟩ := listAccounts_walked placed absent heard
        exact congrArg Prod.fst (again.symm.trans ran)

/-! ## Answers -/

/-- Items that were read from what was received are listed as they were received. -/
theorem listed_enumerates {items : List Resource} {others : Members Wide}
    (read : ReadFrom (drawn.flatMap Response.received) items)
    (beside : ∀ member ∈ others, member.1 = "next_page_token") :
    Enumerates (drawn.flatMap Response.received) (.obj (listMembers items ++ others)) := by
  unfold listMembers
  rw [← List.Forall₂.length_eq read]
  exact .intro (readFrom_pruned read (received_once drawn)) beside

/-- What a list comes to lists what was received, and can be written if this can. -/
structure Presents (drawn : List Response) (document : Document) : Prop where
  lists : Enumerates (drawn.flatMap Response.received) document
  written : ∀ levels, (∀ response ∈ drawn, response.IsWritable (levels + 2)) →
    document.IsWritable (levels + 2)

theorem itemsJson_presents {items : List Resource} (good : itemsOf drawn = .ok items) :
    Presents drawn (itemsJson items) where
  lists := by
    have listed := @listed_enumerates drawn items [] (itemsOf_readFrom good) (by simp)
    rwa [List.append_nil] at listed
  written levels written :=
    listMembers_writable (readFrom_writable (itemsOf_readFrom good) (received_written written))

theorem pageJson_presents {response : Response} {page : Page Resource}
    (good : response.resources = .ok page) : Presents [response] (pageJson page) where
  lists := by
    refine listed_enumerates ?_ (by simp)
    rw [List.flatMap_singleton]
    exact resources_readFrom good
  written levels written := by
    rw [List.forall_mem_singleton] at written
    exact pageJson_writable
      (readFrom_writable (resources_readFrom good) (response_writable written))
      (link_plain good written)

/-- Whatever list a call is for, what it comes to lists what the service sent for it, nothing lost
and nothing changed, and if all of it can be written, this is the answer. After any past of the
cache, there is such a source. -/
theorem answer_items {hub : Hub} {request : Request} {call : Call}
    (leads : hub.Leads request call) (list : call.IsList)
    (hears : call.Hears hub.client world responses after)
    (pages : ∀ response ∈ responses, ∃ page, response.resources = .ok page) :
    (∀ drawn, call.Draws hub.client world responses drawn →
      (∃ document, Enumerates (drawn.flatMap Response.received) document ∧
        (answer hub request world).1 = .ofJson hub.room 200 document) ∧
      ((∀ response ∈ drawn, response.IsWritable (hub.room.levels 200)) →
        (answer hub request world).1.Lists (drawn.flatMap Response.received))) ∧
    ∀ ttl moments, Past hub.client ttl moments world →
      ∃ drawn, call.Draws hub.client world responses drawn := by
  obtain ⟨result, yields, answered, -⟩ := answer_ends leads hears
  rw [answered]
  obtain ⟨items, good⟩ := itemsOf_pages pages
  constructor
  · intro drawn draws
    obtain ⟨document, same, presents⟩ :
        ∃ document, result = .ok document ∧ Presents drawn document := by
      cases draws with
      | asked sent =>
        cases yields with
        | @page _ _ _ _ _ response =>
          obtain ⟨page, good⟩ := pages response List.mem_cons_self
          rw [good]
          exact ⟨_, rfl, pageJson_presents good⟩
        | whole =>
          rw [good]
          exact ⟨_, rfl, itemsJson_presents good⟩
        | held => exact absurd rfl sent
        | walked =>
          rw [good]
          exact ⟨_, rfl, itemsJson_presents good⟩
        | account => exact list.elim
      | held past found stands heard =>
        have got := heard_walked (stands_walked stands) heard (leads_accounts leads)
        cases yields with
        | held again =>
          cases found.symm.trans again
          exact ⟨_, rfl, itemsJson_presents got⟩
        | walked absent =>
          rw [absent.resolve_left nofun] at found
          cases found
    subst same
    refine ⟨⟨document, presents.lists, rfl⟩, fun written => ?_⟩
    obtain ⟨levels, room⟩ := Nat.exists_eq_add_of_le' (hub.room.ample 200)
    have whole := presents.written (levels + 2) fun response hr => room ▸ written response hr
    exact ⟨document, presents.lists, ofJson_written (room ▸ whole)⟩
  · intro ttl moments past
    cases hears with
    | page asked => exact ⟨_, .asked nofun⟩
    | whole heard => exact ⟨_, .asked (hears_ne heard)⟩
    | walked absent heard => exact ⟨_, .asked (hears_ne heard)⟩
    | account asked => exact list.elim
    | held found =>
      obtain ⟨moment, stands⟩ := held_stands past found
      obtain ⟨drawn, heard⟩ := walked_heard (stands_walked stands) (leads_accounts leads)
      exact ⟨drawn, .held past found stands heard⟩

/-- A list of one object with a null member. -/
theorem answer_items_null :
    ∃ reply : Response, reply.status = 200 ∧ reply.received.length = 1 ∧
      (answer .standard ⟨"GET", "/subscriptions/s/accounts:cached", none⟩
        (World.fresh [.response reply] (.finite 1) none)).1.Lists reply.received := by
  let reply : Response := ⟨200, [],
    Text.Utf8.encode "\x7b\"value\":[\x7b\"name\":\"a\",\"x\":null\x7d]\x7d", none, none, 100⟩
  obtain ⟨document, read, written⟩ :
      ∃ document, Json.ofBytes reply.levels reply.body = .ok document ∧
        document.IsWritable 900 := by
    have held : (Json.ofBytes reply.levels reply.body).toOption.map
        (fun document => (decide (document.depth ≤ 900), document.isFinite, document.isPlain)) =
        some (true, true, true) := by decide +kernel
    obtain ⟨document, read, parts⟩ := Option.map_eq_some_iff.mp held
    obtain ⟨shallow, finite, plain⟩ := by simpa only [Prod.mk.injEq] using parts
    exact ⟨document, ok_of_toOption read, ⟨of_decide_eq_true shallow, finite, plain⟩⟩
  obtain ⟨page, good, ends⟩ := only_page
    (show reply.resources.toOption.map Page.continuation = some none by decide +kernel)
  obtain ⟨path, asked, after, placed, hears, -⟩ := standard_hears
    (show (World.fresh [.response reply] (.finite 1) none).replies = [.response reply] from rfl)
    rfl fun other read => Except.ok.inj (good.symm.trans read) ▸ ends
  have heard : Call.Hears (Client.ofSettings .standard) (.cached path (some "s") false)
      (World.fresh [.response reply] (.finite 1) none) [{ reply with request := some asked }]
      after := .walked (.inr rfl) hears
  have pages : ∀ response ∈ [{ reply with request := some asked }],
      ∃ page, Response.resources response = .ok page :=
    List.forall_mem_singleton.mpr ⟨page, (resources_asked _).mpr good⟩
  have finite : ∀ response ∈ [{ reply with request := some asked }],
      Response.IsWritable 900 response := by
    refine List.forall_mem_singleton.mpr fun other again => ?_
    cases read.symm.trans again
    exact written
  have lists := ((answer_items (standard_leads placed) trivial heard pages).1 _
    (.asked nofun)).2 finite
  rw [List.flatMap_singleton] at lists
  exact ⟨reply, rfl, by decide +kernel, lists⟩

end LakeAdmin.Gateway
