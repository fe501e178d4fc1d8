import LakeAdmin.Proofs.Client.Sending
import LakeAdmin.Proofs.Service.Listing
import LakeAdmin.Proofs.Text.Form
import Std.Data.String.ToInt

/-!
What the service reads in the query of a request. Whatever characters the parameters hold, they
are read from the text of the URL as they were given, with the version among them, and nothing
else is read there. So the options of a list can be told from the URL of its first page.
-/

namespace LakeAdmin

open Http Text Url

/-! ## The query of a URL -/

namespace Url

/-- The named values that the text of a URL carries. They stand between the first question mark
and a number sign, and are read as a form. -/
def carried (text : String) : List (String × String) :=
  (cutFirst '?' (cutFirst '#' text.toList).1).2.elim [] fun query =>
    Form.decode (String.ofList query)

/-- What stands before the query. -/
def front (u : Url) : List Char :=
  (if u.scheme = "" then [] else u.scheme.toList ++ [':']) ++
    (if u.authority = "" then [] else '/' :: '/' :: u.authority.toList) ++ u.path.toList

/-- A URL whose query begins at the first question mark of its text. -/
structure Unmarked (u : Url) : Prop where
  question : '?' ∉ u.front
  hash : '#' ∉ u.front

theorem toText_query {u : Url} {query : String} (h : u.query = some query) :
    u.toText.toList = u.front ++ '?' :: (query.toList ++ u.fragment.elim [] ('#' :: ·.toList)) := by
  unfold toText front
  rw [h]
  by_cases scheme : u.scheme = ""
  · by_cases place : u.authority = ""
    · cases u.fragment <;> simp [scheme, place]
    · cases u.fragment <;> simp [scheme, place]
  · by_cases place : u.authority = ""
    · cases u.fragment <;> simp [scheme, place]
    · cases u.fragment <;> simp [scheme, place]

/-- The named values that are put into the query of a URL are carried by its text. -/
theorem carried_form {u : Url} (unmarked : u.Unmarked) (pairs : List (String × String)) :
    carried { u with query := some (Form.encode pairs) }.toText = pairs := by
  have free : '#' ∉ u.front ++ '?' :: (Form.encode pairs).toList := by
    rw [List.mem_append, List.mem_cons, not_or, not_or]
    exact ⟨unmarked.hash, by decide, Form.encode_free pairs⟩
  have before : (cutFirst '#' { u with query := some (Form.encode pairs) }.toText.toList).1 =
      u.front ++ '?' :: (Form.encode pairs).toList := by
    rw [toText_query rfl]
    show (cutFirst '#' (u.front ++ '?' ::
      ((Form.encode pairs).toList ++ u.fragment.elim [] ('#' :: ·.toList)))).1 = _
    cases u.fragment with
    | none =>
      rw [Option.elim_none, List.append_nil, cutFirst_none free]
    | some fragment =>
      rw [Option.elim_some, ← List.cons_append, ← List.append_assoc, cutFirst_append free]
  unfold carried
  rw [before, cutFirst_append unmarked.question, Option.elim_some, String.ofList_toList]
  exact Form.decode_encode pairs

/-- What is read from a text is such a URL. -/
theorem unmarked_of_written {u : Url} (h : u.Written) : u.Unmarked := by
  have apart {c : Char} (scheme : isSchemeChar c = false) (place : endsAuthority c = true)
      (path : isPathChar c = false) (colon : c ≠ ':') (slash : c ≠ '/') : c ∉ u.front := by
    intro hc
    unfold front at hc
    rw [List.mem_append, List.mem_append] at hc
    rcases hc with (hc | hc) | hc
    · split at hc
      · cases hc
      · rename_i named
        rcases List.mem_append.mp hc with hc | hc
        · exact not_mem_of_keep (scheme_chars (scheme_of_written h named)) scheme hc
        · exact colon (List.mem_singleton.mp hc)
    · split at hc
      · cases hc
      · rcases List.mem_cons.mp hc with same | hc
        · exact slash same
        · rcases List.mem_cons.mp hc with same | hc
          · exact slash same
          · rw [authority_isAuthority h c hc] at place
            cases place
    · exact not_mem_of_keep h.path path hc
  constructor
  · exact apart (by decide) (by decide) (by decide) (by decide) (by decide)
  · exact apart (by decide) (by decide) (by decide) (by decide) (by decide)

theorem front_bare (path : String) (query : Option String) :
    front ⟨"", "", "", none, path, query, none⟩ = path.toList := by
  simp [front, authority]

/-- What a request line holds of such a URL has no number sign. -/
theorem target_free {u : Url} (h : u.Written) : '#' ∉ u.target.toList := by
  unfold target
  intro hc
  rw [String.toList_append, List.mem_append] at hc
  rcases hc with hc | hc
  · split at hc
    · revert hc
      decide
    · exact not_mem_of_keep h.path (by decide) hc
  · cases hq : u.query with
    | none =>
      rw [hq] at hc
      cases hc
    | some query =>
      rw [hq, String.toList_append, List.mem_append] at hc
      rcases hc with hc | hc
      · revert hc
        decide
      · exact not_mem_of_keep (h.query query hq) (by decide) hc

/-- So is the bare path of one. -/
theorem unmarked_onlyTarget {u bare : Url} (h : u.Written) (made : u.onlyTarget = .ok bare) :
    bare.Unmarked := by
  have front : bare.front = '/' :: (cutFirst '?' (u.target.toList.dropWhile (· = '/'))).1 := by
    unfold onlyTarget at made
    rw [checkLengths_ok made, front_bare, String.toList_ofList]
  have free : '#' ∉ u.target.toList.dropWhile (· = '/') := by
    intro hc
    exact target_free h (List.dropWhile_subset _ hc)
  constructor
  · rw [front, List.mem_cons, not_or]
    refine ⟨by decide, ?_⟩
    rcases cutFirst_cases '?' (u.target.toList.dropWhile (· = '/')) with
      ⟨none, cut⟩ | ⟨before, after, none, whole, cut⟩
    · rw [cut]
      exact none
    · rw [cut]
      exact none
  · rw [front, List.mem_cons, not_or]
    refine ⟨by decide, ?_⟩
    rcases cutFirst_cases '?' (u.target.toList.dropWhile (· = '/')) with
      ⟨none, cut⟩ | ⟨before, after, none, whole, cut⟩
    · rw [cut]
      exact free
    · rw [cut]
      intro hc
      apply free
      rw [whole]
      exact List.mem_append_left _ hc

/-- The parameters of a request are carried by the text of its URL, and nothing else is. -/
theorem requestUrl_carried {address : String} {pairs : List (String × String)} {url : Url}
    (h : requestUrl address (some pairs) = .ok url) : carried url.toText = pairs := by
  unfold requestUrl at h
  obtain ⟨u, read, h⟩ := bind_ok h
  have written := parse_written read
  dsimp only at h
  split at h
  · have asked : u.withQuery (Form.encode pairs) = .ok url := h
    rw [withQuery_ok asked]
    exact carried_form (unmarked_of_written written) pairs
  · obtain ⟨bare, made, h⟩ := bind_ok h
    have asked : bare.withQuery (Form.encode pairs) = .ok url := h
    rw [withQuery_ok asked]
    exact carried_form (unmarked_onlyTarget written made) pairs

end Url

/-! ## Requests and their parameters -/

/-- What becomes of one request with these parameters: it is sent, and they are what the text of
its URL carries, or it is kept back for a reason, and nothing is sent. -/
inductive Client.Carries (client : Client) (path : String) (pairs : List (String × String))
    (json : Json) (before : World) : Except Failure α × World → Prop
  | unsent {failure : Failure} {after : World}
      (why : client.Unsent path (some pairs) json failure) (deeds : after.deeds = before.deeds) :
      Client.Carries client path pairs json before (.error failure, after)
  | sent {request : Request} {result : Except Failure α} {after : World}
      (deeds : after.deeds = before.deeds ++ [.asked request])
      (carried : Url.carried request.url.toText = pairs) :
      Client.Carries client path pairs json before (result, after)

theorem asks_carried {client : Client} {method reference : String}
    {pairs : List (String × String)} {json : Json} {request : Request}
    (asks : client.Asks method reference (some pairs) json request) :
    Url.carried request.url.toText = pairs := by
  obtain ⟨address, -, place⟩ := asks.url_eq
  exact requestUrl_carried place

theorem turn_carries {client : Client} {method path : String} {pairs : List (String × String)}
    {json : Json} {before after : World} {result : Except Failure Response}
    (turn : client.Turn method path (some pairs) json before result after) :
    client.Carries path pairs json before (result, after) := by
  cases turn with
  | unsent why deeds left => exact .unsent why deeds
  | sent asks leaves deeds replies => exact .sent deeds (asks_carried asks)

/-! ## The version among parameters -/

theorem insert_replaces {name : String} {value old : Json} {before after : Members}
    (fresh : ∀ member ∈ before, member.1 ≠ name) :
    Members.insert name value (before ++ (name, old) :: after) =
      before ++ (name, value) :: after := by
  induction before with
  | nil => simp [Members.insert]
  | cons member rest ih =>
    have other : (member.1 == name) = false := by simpa using fresh member (by simp)
    simp only [List.cons_append, Members.insert, other, Bool.false_eq_true, ↓reduceIte]
    rw [ih fun member hm => fresh member (by simp [hm])]

def textMembers (pairs : List (String × String)) : Members :=
  pairs.map fun pair => (pair.1, .str pair.2)

/-- The parameters of a request whose caller names no version end with the one of the client. -/
theorem paramPairs_absent {pairs : List (String × String)} {name value : String}
    (absent : name ∉ pairs.map Prod.fst) :
    Client.paramPairs ((textMembers pairs).insert name (.str value)) = pairs ++ [(name, value)] := by
  have fresh : ∀ member ∈ textMembers pairs, member.1 ≠ name := by
    intro member hm same
    obtain ⟨pair, hp, rfl⟩ := List.mem_map.mp hm
    exact absent (List.mem_map.mpr ⟨pair, hp, same⟩)
  rw [insert_fresh _ _ _ fresh, ← paramPairs_texts (pairs ++ _), List.map_append]
  rfl

/-- Where the caller names a version, the one of the client stands in its place. -/
theorem paramPairs_present {before after : List (String × String)} {name old value : String}
    (absent : name ∉ before.map Prod.fst) :
    Client.paramPairs ((textMembers (before ++ (name, old) :: after)).insert name (.str value)) =
      before ++ (name, value) :: after := by
  have fresh : ∀ member ∈ textMembers before, member.1 ≠ name := by
    intro member hm same
    obtain ⟨pair, hp, rfl⟩ := List.mem_map.mp hm
    exact absent (List.mem_map.mpr ⟨pair, hp, same⟩)
  have parts : textMembers (before ++ (name, old) :: after) =
      textMembers before ++ (name, .str old) :: textMembers after := by
    simp [textMembers]
  rw [parts, insert_replaces fresh, ← paramPairs_texts (before ++ _), List.map_append]
  rfl

/-- The parameters that go with those of a caller: theirs, in their order, with the version of the
client where they name one, or else behind them. -/
structure Versioned (version : String) (pairs sent : List (String × String)) : Prop where
  once : (sent.map Prod.fst).count "api-version" = 1
  replaced : ∀ before old after, pairs = before ++ ("api-version", old) :: after →
    sent = before ++ ("api-version", version) :: after
  added : "api-version" ∉ pairs.map Prod.fst → sent = pairs ++ [("api-version", version)]

/-- A name stands once among distinct ones. -/
theorem absent_before {before after : List (String × String)} {name value : String}
    (distinct : ((before ++ (name, value) :: after).map Prod.fst).Nodup) :
    name ∉ before.map Prod.fst := by
  intro hm
  rw [List.map_append, List.nodup_append] at distinct
  exact distinct.2.2 name hm name (by simp) rfl

theorem paramPairs_versioned {pairs : List (String × String)}
    (distinct : (pairs.map Prod.fst).Nodup) (version : String) :
    Versioned version pairs
      (Client.paramPairs ((textMembers pairs).insert "api-version" (.str version))) where
  once := by
    by_cases there : "api-version" ∈ pairs.map Prod.fst
    · obtain ⟨⟨name, old⟩, hp, rfl⟩ := List.mem_map.mp there
      obtain ⟨before, after, rfl⟩ := List.append_of_mem hp
      rw [paramPairs_present (absent_before distinct)]
      have names : (before ++ ("api-version", version) :: after).map Prod.fst =
          (before ++ ("api-version", old) :: after).map Prod.fst := by simp
      rw [names, distinct.count, if_pos there]
    · rw [paramPairs_absent there, List.map_append, List.count_append,
        List.count_eq_zero_of_not_mem there]
      rfl
  replaced := by
    rintro before old after rfl
    exact paramPairs_present (absent_before distinct)
  added := paramPairs_absent

/-! ## Options told from parameters -/

def presentValues (named : List (String × Option String)) : List (String × String) :=
  named.filterMap fun (name, value) => value.map (name, ·)

theorem lookup_presentValues (named : List (String × Option String))
    (distinct : (named.map Prod.fst).Nodup) (name : String) :
    (presentValues named).lookup name = (named.lookup name).join := by
  induction named with
  | nil => rfl
  | cons first rest ih =>
    obtain ⟨other, value⟩ := first
    obtain ⟨fresh, apart⟩ := List.nodup_cons.mp distinct
    have more := ih apart
    cases value with
    | some text =>
      by_cases same : name = other
      · simp [presentValues, same]
      · have unlike : (name == other) = false := by simpa using same
        simp only [presentValues, List.filterMap_cons, Option.map_some, List.lookup_cons,
          unlike] at more ⊢
        exact more
    | none =>
      by_cases same : name = other
      · subst same
        have absent : rest.lookup name = none := by
          rw [List.lookup_eq_none_iff]
          intro pair hp
          rw [bne_iff_ne]
          rintro rfl
          exact fresh (List.mem_map.mpr ⟨pair, hp, rfl⟩)
        rw [absent] at more
        simp only [presentValues, List.filterMap_cons, Option.map_none, List.lookup_cons,
          beq_self_eq_true] at more ⊢
        exact more
      · have unlike : (name == other) = false := by simpa using same
        simp only [presentValues, List.filterMap_cons, Option.map_none, List.lookup_cons,
          unlike] at more ⊢
        exact more

theorem truthText_injective : Function.Injective QueryOptions.truthText := by
  intro a b same
  cases a <;> cases b <;> simp_all [QueryOptions.truthText]

theorem intText_injective : Function.Injective (toString : Int → String) := by
  intro a b same
  rw [Int.toString_eq_repr, Int.toString_eq_repr] at same
  exact Int.repr_injective same

/-- Each option is found among the parameters under its name. -/
theorem toParams_lookup (query : QueryOptions) :
    query.toParams.lookup "$filter" = query.filter ∧
      query.toParams.lookup "$top" = query.top.map toString ∧
      query.toParams.lookup "$skip" = query.skip.map toString ∧
      query.toParams.lookup "$select" = query.select ∧
      query.toParams.lookup "$orderby" = query.orderBy ∧
      query.toParams.lookup "$count" = query.count.map QueryOptions.truthText := by
  have find (name : String) := lookup_presentValues [("$filter", query.filter),
    ("$top", query.top.map toString), ("$skip", query.skip.map toString),
    ("$select", query.select), ("$orderby", query.orderBy),
    ("$count", query.count.map QueryOptions.truthText)] (by simp) name
  refine ⟨?_, ?_, ?_, ?_, ?_, ?_⟩
  · exact find "$filter"
  · exact find "$top"
  · exact find "$skip"
  · exact find "$select"
  · exact find "$orderby"
  · exact find "$count"

/-- Different options never have the same parameters. -/
theorem toParams_injective : Function.Injective QueryOptions.toParams := by
  intro first second same
  obtain ⟨filter, top, skip, select, orderBy, count⟩ := toParams_lookup first
  obtain ⟨filter', top', skip', select', orderBy', count'⟩ := toParams_lookup second
  rw [same] at filter top skip select orderBy count
  have tops := Option.map_injective intText_injective (top.symm.trans top')
  have skips := Option.map_injective intText_injective (skip.symm.trans skip')
  have counts := Option.map_injective truthText_injective (count.symm.trans count')
  cases first
  cases second
  simp_all

/-! ## What the service reads -/

/-- Fetching the first page of a list sends the options of the list and the version. -/
theorem firstPage_carries {client : Client} {operation : ListOperation}
    {identity : Option Identity} {query : QueryOptions} {pager : Pager World Failure Resource}
    (made : client.list operation identity (some query) = .ok pager) (world : World) :
    ∃ path, client.operationPath operation.path identity (some query) [] = .ok path ∧
      client.Carries path (query.toParams ++ [("api-version", client.apiVersion)]) .null world
        (pager.fetch none world) := by
  obtain ⟨path, placed, rfl⟩ := list_made made
  refine ⟨path, placed, ?_⟩
  have first : (none : Option Wide) ≠ some (.plain "") := nofun
  have turn := fetchPage_turn client operation path (some query) first world
  show client.Carries path _ .null world
    (client.fetchPage operation path (queryParams (some query)) none world)
  rcases fetched : client.fetchPage operation path (queryParams (some query)) none world with
    ⟨result, after⟩
  rw [fetched] at turn
  cases turn with
  | unsent why deeds => exact .unsent why deeds
  | sent asks leaves deeds replies => exact .sent deeds (asks_carried asks)

/-- A request that is sent for the first page of a list with these options. -/
def Client.OpensWith (client : Client) (query : QueryOptions) (request : Request) : Prop :=
  ∃ operation identity pager world, client.list operation identity (some query) = .ok pager ∧
    (pager.fetch none world).2.deeds = world.deeds ++ [.asked request]

theorem opens_carried {client : Client} {query : QueryOptions} {request : Request}
    (opens : client.OpensWith query request) :
    Url.carried request.url.toText = query.toParams ++ [("api-version", client.apiVersion)] := by
  obtain ⟨operation, identity, pager, world, made, asked⟩ := opens
  obtain ⟨path, -, carries⟩ := firstPage_carries made world
  rcases fetched : pager.fetch none world with ⟨result, after⟩
  rw [fetched] at asked carries
  cases carries with
  | unsent why deeds =>
    rw [deeds] at asked
    simp at asked
  | sent deeds carried =>
    rw [deeds] at asked
    cases List.append_cancel_left asked
    exact carried

/-- Options told from the URL of a first page, whichever client sends it and whichever list it
is of. -/
theorem opens_injective {client other : Client} {query second : QueryOptions}
    {request again : Request} (opens : client.OpensWith query request)
    (reopens : other.OpensWith second again) (same : request.url.toText = again.url.toText) :
    query = second := by
  apply toParams_injective
  have carried := opens_carried opens
  rw [same, opens_carried reopens] at carried
  exact (List.append_inj_left' carried rfl).symm

theorem send_carries (client : Client) (method path : String) {pairs : List (String × String)}
    (distinct : (pairs.map Prod.fst).Nodup) (json : Json) (extra : Headers) (world : World) :
    ∃ sent, Versioned client.apiVersion pairs sent ∧
      client.Carries path sent json world
        ((client.send method path (textMembers pairs) json extra).run world) :=
  ⟨_, paramPairs_versioned distinct _, turn_carries (send_turn client method path _ json extra world)⟩

/-- The options of a list survive the wire, whatever characters they hold: if the request for the
first page is sent at all, the service reads there the options in their order and the version, and
nothing else. So different options never lead to the same URL. More generally, the service reads
the parameters of any request as they were given, with the one version among them. -/
theorem options_survive (client : Client) :
    (∀ operation identity query pager world,
      client.list operation identity (some query) = .ok pager →
        ∃ path, client.operationPath operation.path identity (some query) [] = .ok path ∧
          client.Carries path (query.toParams ++ [("api-version", client.apiVersion)]) .null world
            (pager.fetch none world)) ∧
      (∀ other query second request again, client.OpensWith query request →
        Client.OpensWith other second again → query ≠ second →
          request.url.toText ≠ again.url.toText) ∧
      ∀ method path pairs json extra world, (pairs.map Prod.fst).Nodup →
        ∃ sent, Versioned client.apiVersion pairs sent ∧
          client.Carries path sent json world
            ((client.send method path (textMembers pairs) json extra).run world) := by
  refine ⟨?_, ?_, ?_⟩
  · intro operation identity query pager world made
    exact firstPage_carries made world
  · intro other query second request again opens reopens apart same
    exact apart (opens_injective opens reopens same)
  · intro method path pairs json extra world distinct
    exact send_carries client method path distinct json extra world

/-- Options that hold what would part a query, on their way with the standard client. -/
theorem options_survive_marks :
    ∃ request, (Client.ofSettings .standard).OpensWith
        ⟨some "a&b=c +#%é", some 3, none, some "", none, some true⟩ request ∧
      Url.carried request.url.toText =
        [("$filter", "a&b=c +#%é"), ("$top", "3"), ("$select", ""), ("$count", "true"),
          ("api-version", "2016-11-01")] := by
  obtain ⟨first, -, -⟩ := options_survive (Client.ofSettings .standard)
  obtain ⟨pager, made⟩ : ∃ pager, (Client.ofSettings .standard).list .accounts
      (some ⟨some "s", none, none, none, none⟩)
      (some ⟨some "a&b=c +#%é", some 3, none, some "", none, some true⟩) = .ok pager := ⟨_, rfl⟩
  obtain ⟨path, placed, carries⟩ := first _ _ _ _ (World.fresh [] 1000 none) made
  have reaches : (Client.ofSettings .standard).Reaches standardBase path := by
    refine standard_place (by decide) (by decide) placed ?_
    decide +kernel
  rcases fetched : pager.fetch none (World.fresh [] 1000 none) with ⟨result, after⟩
  rw [fetched] at carries
  cases carries with
  | unsent why deeds =>
    exact absurd why (reaches_unsent reaches standard_open (by decide +kernel) rfl)
  | @sent request _ _ deeds carried =>
    refine ⟨request, ⟨_, _, pager, World.fresh [] 1000 none, made, ?_⟩, carried⟩
    rw [fetched]
    exact deeds

end LakeAdmin
