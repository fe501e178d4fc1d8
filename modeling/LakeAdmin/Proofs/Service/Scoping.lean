import LakeAdmin.Proofs.Client.Encoding
import LakeAdmin.Proofs.Service.Immediate
import LakeAdmin.Proofs.Service.Staleness
import LakeAdmin.Proofs.Service.Submission

/-!
The subscription of a list in the cache and of the request behind it. Two rules put the
subscription of the client in the place of one that is missing: for the keys of the cache an empty
text is none, for paths it is not. Wherever a path is built at all the two agree, so the cache and
the service are told of the same subscription. The URL names it too, unless it is a dot segment:
then the path that was built says it, and the URL has lost it.
-/

namespace LakeAdmin

open Http LakeAdmin.Path Text Url

/-! ## Paths into a subscription -/

/-- The segments of a path begin with those of a subscription. -/
def Path.LeadsInto (sub : String) (parts : List (List Char)) : Prop :=
  ∃ texts rest, Path.Fills (fun _ => sub) Path.inSubscription texts ∧ parts = texts ++ rest

/-- The path of a URL leads into a subscription, behind the folders of a base that have names. -/
def Url.LeadsInto (base url : Url) (sub : String) : Prop :=
  ∃ behind, splitAt '/' url.path.toList = [] :: (base.folders.filter (!·.isEmpty) ++ behind) ∧
    Path.LeadsInto sub behind

variable {segments rest : List Segment} {identity : Option Identity}
  {extra : Client.PathValues} {parts : List (List Char)} {sub sub' : String}

theorem leadsInto_iff : Path.LeadsInto sub parts ↔ ∃ part rest,
    parts = "subscriptions".toList :: part :: rest ∧ Percent.decode (String.ofList part) = sub := by
  constructor
  · rintro ⟨texts, rest, fills, rfl⟩
    cases fills with
    | fixed behind =>
      cases behind with
      | named same nothing =>
        cases nothing
        exact ⟨_, rest, rfl, same⟩
  · rintro ⟨part, rest, rfl, same⟩
    exact ⟨_, rest, .fixed (.named same .nil), rfl⟩

/-- A path leads into one subscription at most. -/
theorem leadsInto_unique (h : Path.LeadsInto sub parts) (h' : Path.LeadsInto sub' parts) :
    sub = sub' := by
  obtain ⟨part, rest, rfl, rfl⟩ := leadsInto_iff.mp h
  obtain ⟨_, _, same, rfl⟩ := leadsInto_iff.mp h'
  cases same
  rfl

/-- Each text of sound segments is the code of some value. -/
theorem texts_coded {follows : Bool} (sound : isSound follows segments = true) :
    ∀ text ∈ textsOf identity extra segments,
      ∃ value, text = (Percent.encode Percent.isUnreserved value).toList := by
  induction segments generalizing follows with
  | nil => simp [textsOf]
  | cons segment rest ih =>
    cases segment with
    | fixed fixed =>
      simp only [isSound, Bool.and_eq_true] at sound
      have same := Percent.encode_eq_self (List.all_eq_true.mp sound.1.1.2)
      exact List.forall_mem_cons.mpr ⟨⟨fixed, congrArg String.toList same.symm⟩, ih sound.2⟩
    | named name =>
      simp only [isSound, Bool.and_eq_true] at sound
      exact List.forall_mem_cons.mpr ⟨⟨_, rfl⟩, ih sound.2⟩

/-- What is read from a code is a dot segment if and only if the code is one. -/
theorem decode_dots (s : String) :
    IsDots (Percent.decode (String.ofList
        (Percent.encode Percent.isUnreserved s).toList)).toList ↔
      IsDots (Percent.encode Percent.isUnreserved s).toList := by
  rw [String.ofList_toList, Percent.decode_encode (by decide), encode_dots]

theorem sound_inSubscription (sound : isSound false rest = true) :
    isSound false (Path.inSubscription ++ rest) = true := by
  have first : isSound false Path.inSubscription = true := by decide
  simp only [Path.inSubscription, isSound, List.cons_append, List.nil_append, sound] at first ⊢
  exact first

/-- The texts of a path within a subscription lead into it. -/
theorem texts_lead (identity : Option Identity) (extra : Client.PathValues)
    (rest : List Segment) :
    Path.LeadsInto (Client.nameValue identity extra "subscription_id")
      (textsOf identity extra (Path.inSubscription ++ rest)) :=
  leadsInto_iff.mpr ⟨_, textsOf identity extra rest, rfl, pathValue_decode identity extra _⟩

/-- Behind a folder, a path that has lost its dot segments still leads into its subscription if and
only if that is no dot segment itself. -/
theorem removeDots_leads {front : List (List Char)} (hf : ∀ s ∈ front, ¬IsDots s)
    (sound : isSound false rest = true) :
    (∃ behind, Reference.removeDots (front ++ textsOf identity extra
        (Path.inSubscription ++ rest)) = front ++ behind ∧
      Path.LeadsInto (Client.nameValue identity extra "subscription_id") behind) ↔
    ¬IsDots (Client.nameValue identity extra "subscription_id").toList := by
  constructor
  · rintro ⟨behind, same, leads⟩ dots
    have whole := sound_inSubscription sound
    obtain ⟨others, kept, all⟩ := Reference.removeDots_front hf
      (texts_dots identity extra whole).1
    obtain rfl : behind = others := List.append_cancel_left (same.symm.trans kept)
    obtain ⟨part, later, rfl, read⟩ := leadsInto_iff.mp leads
    -- The segment that is read as dots would be a dot segment itself, and none is left.
    rcases all part (by simp) with rfl | ⟨mem, plain⟩
    · rw [← read] at dots
      exact absurd dots (by decide)
    · obtain ⟨value, rfl⟩ := texts_coded whole part mem
      exact plain ((decode_dots value).mp (read ▸ dots))
  · intro plain
    have first : ∀ s ∈ front ++ ["subscriptions".toList,
        (Client.pathValue identity extra "subscription_id").toList], ¬IsDots s := by
      intro s hs
      rcases List.mem_append.mp hs with old | new
      · exact hf s old
      · rcases List.mem_pair.mp new with rfl | rfl
        · decide
        · exact fun dots => plain ((encode_dots _).mp dots)
    obtain ⟨others, kept, -⟩ := Reference.removeDots_front first
      (texts_dots identity extra sound).1
    rw [List.append_assoc] at kept
    exact ⟨_, kept.trans (List.append_assoc _ _ _),
      leadsInto_iff.mpr ⟨_, others, rfl, pathValue_decode identity extra _⟩⟩

/-! ## Requests within a subscription -/

/-- A request is made within a subscription: the path that was built for it leads there and into
no other, and its URL leads there too, if the subscription is no dot segment. -/
structure Client.AsksWithin (client : Client) (method sub : String) (request : Request) :
    Prop where
  method_eq : request.method = method
  path : ∃ path, client.AsksAt path request ∧
    ∀ named, Path.LeadsInto named (splitAt '/' path.toList) ↔ named = sub
  url : ∀ base, Url.parse client.baseUrl = .ok base → base.IsRoot →
    (base.LeadsInto request.url sub ↔ ¬IsDots sub.toList)

theorem subscriptionOf_some (client : Client) {text : String} (named : text ≠ "") :
    Explorer.subscriptionOf client (some text) = some text := by
  unfold Explorer.subscriptionOf
  rw [Option.filter_some, if_pos (by simpa using named)]

/-- Once the subscription of the client has been filled in, it is not filled in again. -/
theorem subscriptionOf_filled (client : Client) (given : Option String) :
    Explorer.subscriptionOf client (Explorer.subscriptionOf client given) =
      Explorer.subscriptionOf client given := by
  have own : Explorer.subscriptionOf client client.subscription = client.subscription := by
    cases hc : client.subscription with
    | none => exact hc
    | some text =>
      by_cases empty : text = ""
      · subst empty
        exact hc
      · exact subscriptionOf_some client empty
  cases given with
  | none => exact own
  | some text =>
    by_cases empty : text = ""
    · subst empty
      exact own
    · rw [subscriptionOf_some client empty, subscriptionOf_some client empty]

/-- The two rules for a missing subscription agree where the path is given one that is not
blank. -/
theorem scope_agrees (client : Client) (own : Identity)
    (filled : ¬((client.scope (some own)).lookUp "subscription_id").all allBlank = true) :
    ∃ sub, Explorer.subscriptionOf client own.subscription = some sub ∧
      (client.scope (some own)).lookUp "subscription_id" = some sub := by
  have found (identity : Identity) :
      identity.lookUp "subscription_id" = identity.subscription := rfl
  rw [found] at filled ⊢
  cases hs : own.subscription with
  | some text =>
    have taken : (client.scope (some own)).subscription = some text := by
      simp [Client.scope, hs]
    have named : text ≠ "" := by
      rintro rfl
      exact filled (by rw [taken]; rfl)
    exact ⟨text, subscriptionOf_some client named, taken⟩
  | none =>
    cases hc : client.subscription with
    | none => exact absurd (by simp [Client.scope, hs, hc]) filled
    | some text =>
      have named : text ≠ "" := by
        rintro rfl
        exact filled (by simp [Client.scope, hs, hc])
      exact ⟨text, by simp [Explorer.subscriptionOf, hc], by simp [Client.scope, hs, hc, named]⟩

/-- A request at the path of an operation is made within the subscription that the cache is told
of. -/
theorem placed_within {client : Client} {own : Identity} {query : Option QueryOptions}
    {path method : String} {params : Option (List (String × String))} {json : Json}
    {request : Request} (sound : isSound false rest = true)
    (placed : client.operationPath (Path.inSubscription ++ rest) (some own) query [] = .ok path)
    (asks : client.Asks method path params json request) :
    ∃ sub, Explorer.subscriptionOf client own.subscription = some sub ∧
      client.AsksWithin method sub request := by
  have whole := sound_inSubscription sound
  have nonempty : Path.inSubscription ++ rest ≠ [] := nofun
  obtain ⟨problems, rfl⟩ := buildPath_ok (sound_plain whole) placed
  have distinct : (([] : Client.PathValues).map (·.1)).Nodup := List.nodup_nil
  have filled := (problems_none distinct).mp problems (.place "subscription_id")
  obtain ⟨sub, same, found⟩ := scope_agrees client own fun blank =>
    filled ⟨.inl List.mem_cons_self, blank⟩
  have value : Client.nameValue (some (client.scope (some own))) [] "subscription_id" = sub :=
    congrArg (Option.getD · "None") found
  obtain ⟨-, parts⟩ := pathText_relative (some (client.scope (some own))) [] whole nonempty
  have leads := texts_lead (some (client.scope (some own))) [] rest
  rw [value, ← parts] at leads
  refine ⟨sub, same, asks.method_eq, ⟨_, ⟨_, _, _, asks⟩, fun named => ?_⟩, ?_⟩
  · exact ⟨fun other => leadsInto_unique other leads, fun same => same ▸ leads⟩
  · intro base hb root
    obtain ⟨inner, folder⟩ := root_folder hb root
    obtain ⟨address, ha, hu⟩ := asks.url_eq
    have below := pathText_below whole nonempty (nameValue_ne problems)
    have segments := request_segments hb root folder below ha hu
    have front : ∀ s ∈ [] :: inner.filter (!·.isEmpty), ¬IsDots s := by
      intro s hs
      rcases List.mem_cons.mp hs with rfl | hs
      · exact not_isDots_nil
      · exact folder.undotted s (List.mem_filter.mp hs).1
    have named : base.folders.filter (!·.isEmpty) = inner.filter (!·.isEmpty) := by
      rw [folders_eq folder]
      rfl
    have lead := @removeDots_leads rest (some (client.scope (some own))) [] _ front sound
    rw [value, List.cons_append, ← parts, ← segments] at lead
    unfold Url.LeadsInto
    rw [named]
    exact lead

namespace Explorer

/-! ## Lists -/

variable {client : Client} {change : Change} {world after : World}
  {subscription : Option String} {refreshed : Bool} {query : Option QueryOptions}
  {accounts : List Resource}

/-- The cache behind which the service is walked for a list: the key was looked up there, unless
the list is asked for afresh. -/
def cacheRead (refreshed : Bool) (sub : Option String) (query : Option QueryOptions)
    (world : World) : ListCache (List Resource) :=
  if refreshed then world.lists else (world.lists.get world.clock (listKey sub query)).2

/-- A list that took a request was got by walking the service. -/
theorem listAccounts_walked
    (ran : (listAccounts client subscription refreshed query).run world = (.ok accounts, after))
    (sent : after.requests ≠ world.requests) :
    (refresh client (subscriptionOf client subscription) query).run { world with
        lists := cacheRead refreshed (subscriptionOf client subscription) query world } =
      (.ok accounts, after) := by
  unfold cacheRead
  cases refreshed with
  | true => exact ran
  | false =>
    cases read : (world.lists.get world.clock
        (listKey (subscriptionOf client subscription) query)).1 with
    | none => rwa [listAccounts_missed client subscription read] at ran
    | some held =>
      rw [listAccounts_found client subscription read] at ran
      cases ran
      exact absurd rfl sent

/-- The first request of such a walk is at the path of the accounts, and the list is stored. -/
theorem refresh_first {sub : Option String}
    (ran : (refresh client sub query).run world = (.ok accounts, after)) :
    ∃ path request rest, AccountsAt client sub query path ∧
      client.Asks ListOperation.accounts.method path (some (client.listParams query)) .null
        request ∧
      after.deeds = world.deeds ++ .asked request :: rest := by
  obtain ⟨pager, ready, listed, ran⟩ := Action.run_bind_ok_iff.mp ran
  rw [Action.run_ofExcept] at listed
  obtain ⟨made, rfl⟩ := Prod.mk.inj listed
  obtain ⟨path, placed, rfl⟩ := list_made made
  obtain ⟨items, walked, collected, ran⟩ := Action.run_bind_ok_iff.mp ran
  obtain ⟨request, rest, asks, deeds⟩ := collect_first collected
  cases ran
  exact ⟨path, request, rest, placed, asks, (deeds_noted walked _).trans deeds⟩

/-! ## Changes -/

/-- The first request of a change that came to its end is at the path of its account. -/
theorem change_first {done : Unit}
    (ran : (change.carryOut client).run world = (.ok done, after)) :
    ∃ path params json request rest,
      client.operationPath Path.account (some change.identity) none [] = .ok path ∧
      client.Asks change.operation.method path params json request ∧
      after.deeds = world.deeds ++ .asked request :: rest := by
  obtain ⟨answer, ready, long, rfl⟩ := carryOut_long ran
  have stages := long
  rw [runLong_submit] at stages
  obtain ⟨json, path, -, -, made, placed, -, -⟩ := submit_ok stages
  obtain ⟨more, same, reads⟩ := long_sends change.operation made placed world
  rw [same] at long
  rcases bind_sends (send_turn client _ path [] json [] world) reads with
    ⟨failure, -, failed, -⟩ | ⟨request, rest, asks, deeds, -⟩
  · rw [long] at failed
    cases failed
  · rw [long] at deeds
    exact ⟨path, _, json, request, rest, placed, asks, deeds⟩

/-- A deletion that the service answers for good at once comes to its end. -/
theorem delete_done {identity : Identity} {path : String} {initial : Response} {ready : World}
    (placed : client.operationPath Path.account (some identity) none [] = .ok path)
    (sent : (client.send LongOperation.deleteAccount.method path [] .null []).run world =
      (.ok initial, ready))
    (success : initial.status ∈ LongOperation.deleteAccount.success)
    (none : Poller.placeOf? initial = none) :
    ∃ after, (deleteAccount client identity).run world = (.ok (), after) := by
  have unwritten : LongOperation.deleteAccount.bodyRule.body (.plain .null) = .ok .null := rfl
  have waited : Poller.wait client initial .none = pure initial := by
    rw [wait_placeless none]
    exact ite_self _
  have long : (client.runLong .deleteAccount (some identity) (.plain .null)).run world =
      (.ok .nothing, ready) := by
    rw [runLong_run unwritten placed, Action.run_bind_ok sent, settle_run success]
    exact Action.run_bind_ok (congrArg (Action.run · ready) waited)
  obtain ⟨gone, dropped⟩ := invalidate_run client identity.subscription ready
  exact ⟨_, (Action.run_bind_ok long).trans (Action.run_bind_ok dropped)⟩

/-! ## Keys and requests -/

/-- A list that is got from the service is stored under the subscription within which its first
page is asked for, and under no other; a change that comes to its end drops the lists of the
subscription within which it was asked for, and no others. So it is whatever subscription is given
and whatever the client has, one of them or both being absent, empty or blank. -/
theorem keyed_as_asked (client : Client) (world : World) :
    (∀ subscription refreshed query accounts after,
      (listAccounts client subscription refreshed query).run world = (.ok accounts, after) →
      after.requests ≠ world.requests →
      ∃ sub request rest, subscriptionOf client subscription = some sub ∧
        client.AsksWithin ListOperation.accounts.method sub request ∧
        after.deeds = world.deeds ++ .asked request :: rest ∧
        after.lists = (cacheRead refreshed (some sub) query world).put after.clock
          (listKey (some sub) query) (some accounts)) ∧
    ∀ (change : Change) done after,
      (change.carryOut client).run world = (.ok done, after) →
      ∃ sub request rest, subscriptionOf client change.identity.subscription = some sub ∧
        client.AsksWithin change.operation.method sub request ∧
        after.deeds = world.deeds ++ .asked request :: rest ∧
        after.lists = dropLists (some sub) world.lists := by
  constructor
  · intro subscription refreshed query accounts after ran sent
    have walked := listAccounts_walked ran sent
    obtain ⟨path, request, rest, placed, asks, deeds⟩ := refresh_first walked
    have sound : isSound false (provider ++ [.fixed "accounts"]) = true := by decide
    obtain ⟨sub, agreed, within⟩ := placed_within sound placed asks
    dsimp only at agreed
    rw [subscriptionOf_filled] at agreed
    rw [agreed] at walked
    have stored := refresh_refreshed client (some sub) query
      { world with lists := cacheRead refreshed (some sub) query world }
    rw [walked] at stored
    cases stored with
    | stored later sent lists => exact ⟨sub, request, rest, agreed, within, deeds, lists⟩
  · intro change done after ran
    obtain ⟨path, params, json, request, rest, placed, asks, deeds⟩ := change_first ran
    have sound : isSound false ([.fixed "resourceGroups", .named "resource_group_name"] ++
        provider ++ [.fixed "accounts"] ++ [.named "account_name"]) = true := by decide
    obtain ⟨sub, agreed, within⟩ := placed_within sound placed asks
    have changed := carryOut_changed client change world
    rw [ran] at changed
    cases changed with
    | done later lists => exact ⟨sub, request, rest, agreed, within, deeds, agreed ▸ lists⟩

/-- A list of the subscription of a double dot: it is stored under that name, and its request has
gone elsewhere. A deletion in a subscription with a plain name goes where the lists are dropped. -/
theorem keyed_as_asked_dots :
    (∃ (world after : World) (accounts : List Resource) (request : Request) (rest : List Deed),
      (listAccounts (Client.ofSettings .standard) (some "..") false none).run world =
        (.ok accounts, after) ∧
      after.requests ≠ world.requests ∧
      after.deeds = world.deeds ++ .asked request :: rest ∧
      after.lists = (cacheRead false (some "..") none world).put after.clock
        (listKey (some "..") none) (some accounts) ∧
      ¬standardBase.LeadsInto request.url "..") ∧
    ∃ (change : Change) (world after : World) (request : Request) (rest : List Deed),
      (change.carryOut (Client.ofSettings .standard)).run world = (.ok (), after) ∧
      after.deeds = world.deeds ++ .asked request :: rest ∧
      after.lists = dropLists (some "s") world.lists ∧
      standardBase.LeadsInto request.url "s" := by
  let client := Client.ofSettings .standard
  constructor
  · let listed : Response := ⟨200, [], Utf8.encode "\x7b\"value\":[]\x7d", none, none, 100⟩
    let world := World.fresh [.response listed] (.finite 1) none
    obtain ⟨path, placed⟩ : ∃ path, AccountsAt client (some "..") none path := ⟨_, rfl⟩
    have reaches := standard_place (by decide) (by decide) placed (by decide +kernel)
    obtain ⟨page, good, ends⟩ := only_page
      (show listed.resources.toOption.map Page.continuation = some none by decide +kernel)
    obtain ⟨after, refreshed, -⟩ := placed_stored placed reaches standard_open
      (show world.replies = .response listed :: [] from rfl) good ends
    have ran : (listAccounts client (some "..") false none).run world = (.ok page.items, after) :=
      (listAccounts_missed client (some "..") rfl).trans refreshed
    have sent : after.requests ≠ world.requests := by
      have stored := refresh_refreshed client (some "..") none world
      rw [refreshed] at stored
      cases stored with
      | stored later sent lists => exact sent
    obtain ⟨sub, request, rest, same, within, deeds, lists⟩ :=
      (keyed_as_asked client world).1 _ _ _ _ _ ran sent
    cases same
    refine ⟨world, after, page.items, request, rest, ran, sent, deeds, lists, fun leads => ?_⟩
    exact (within.url _ reaches.parsed reaches.root).mp leads (.inr rfl)
  · let change := Change.delete ⟨some "s", some "g", some "a", none, none⟩
    let world := World.fresh [.response (.bare 204)] (.finite 1) none
    obtain ⟨path, placed⟩ : ∃ path,
      client.operationPath Path.account (some change.identity) none [] = .ok path := ⟨_, rfl⟩
    have reaches := standard_place (by decide) (by decide) placed (by decide +kernel)
    obtain ⟨asked, ready, sent, -⟩ := send_answered reaches standard_open
      (show Client.bodyOf .null = .ok .none from rfl) "DELETE" []
      (show world.replies = .response (.bare 204) :: [] from rfl) rfl
    obtain ⟨after, ran⟩ := delete_done placed sent
      (show (204 : Int) ∈ LongOperation.deleteAccount.success by decide) rfl
    obtain ⟨sub, request, rest, same, within, deeds, lists⟩ :=
      (keyed_as_asked client world).2 change () after ran
    cases same
    refine ⟨change, world, after, request, rest, ran, deeds, lists, ?_⟩
    exact (within.url _ reaches.parsed reaches.root).mpr (by decide)

end Explorer

end LakeAdmin
