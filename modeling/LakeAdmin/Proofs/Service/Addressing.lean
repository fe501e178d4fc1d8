import LakeAdmin.Proofs.Client.Segments
import LakeAdmin.Proofs.Client.Sending
import LakeAdmin.Proofs.Service.Confinement
import LakeAdmin.Proofs.Service.Listing

/-!
Where the requests of operations go. The path of a request is meant to be the folder of
the base URL with the segments of the operation behind it, each name standing for its
value. It is so if and only if no value is a dot segment and no folder of the base URL is
without a name: encoding leaves dots as they are, and such segments are lost when the path
is joined to the base URL.
-/

namespace LakeAdmin

open Http LakeAdmin.Path Text Url

/-! ## Operations of all kinds -/

/-- An operation of the service: a list, a call, or one that is waited for. -/
inductive Operation where
  | list (operation : ListOperation)
  | call (operation : CallOperation)
  | long (operation : LongOperation)
  deriving DecidableEq, Repr

def Operation.path : Operation → List Segment
  | list operation => operation.path
  | call operation => operation.path
  | long _ => Path.account

/-- The values of a path beyond those of an identity: where names are looked up, the
location. -/
def Operation.values (location : Option String) : Operation → Client.PathValues
  | call .lookUpName => [("location", location)]
  | _ => []

theorem path_sound (operation : Operation) : isSound false operation.path = true := by
  cases operation with
  | list operation => cases operation <;> decide
  | call operation => cases operation <;> decide
  | long operation =>
    show isSound false Path.account = true
    decide

theorem path_ne (operation : Operation) : operation.path ≠ [] := by
  cases operation with
  | list operation => cases operation <;> decide
  | call operation => cases operation <;> decide
  | long operation =>
    show Path.account ≠ []
    decide

/-! ## Addresses -/

/-- The segments of a path up to its last slash. -/
def Url.folders (u : Url) : List (List Char) := (splitAt '/' u.path.toList).dropLast

theorem folders_eq {base : Url} {inner : List (List Char)} (folder : base.IsFolder inner) :
    base.folders = [] :: inner := by
  unfold Url.folders
  rw [folder.segments, ← List.cons_append, List.dropLast_concat]

/-- A URL addresses segments beside a base: its path is the folder of the base with these
segments behind it, no more and no fewer. -/
def Addresses (base url : Url) (segments : List Segment) (value : String → String) : Prop :=
  ∃ texts, Path.Fills value segments texts ∧ splitAt '/' url.path.toList = base.folders ++ texts

/-- A request at the path of an operation addresses what its values name if and only if
no segment is lost on the way. -/
theorem asks_addresses {client : Client} {base : Url}
    (hb : Url.parse client.baseUrl = .ok base) (root : base.IsRoot) (operation : Operation)
    {identity : Option Identity} {query : Option QueryOptions} {location : Option String}
    {path : String}
    (hp : client.operationPath operation.path identity query (operation.values location) =
      .ok path)
    {method : String} {params : Option (List (String × String))} {json : Json}
    {request : Request} (asks : client.Asks method path params json request) :
    Addresses base request.url operation.path
        (Client.nameValue (some (client.scope identity)) (operation.values location)) ↔
      (∀ folder ∈ base.folders.tail, folder ≠ []) ∧
        ∀ name ∈ namesOf operation.path,
          ¬IsDots (Client.nameValue (some (client.scope identity)) (operation.values location)
            name).toList := by
  have sound := path_sound operation
  obtain ⟨problems, rfl⟩ := buildPath_ok (sound_plain sound) hp
  have filled := nameValue_ne problems
  have nonempty := path_ne operation
  generalize operation.values location = extra at *
  generalize some (client.scope identity) = identity' at *
  generalize operation.path = segments at *
  have below := pathText_below sound nonempty filled
  have texts := fills_filled sound filled (fills_texts identity' extra segments)
  obtain ⟨steady, dots⟩ := texts_dots identity' extra sound
  obtain ⟨-, parts⟩ := pathText_relative identity' extra sound nonempty
  obtain ⟨inner, folder⟩ := root_folder hb root
  obtain ⟨address, ha, hu⟩ := asks.url_eq
  have whole := request_segments hb root folder below ha hu
  rw [parts] at whole
  unfold Addresses
  rw [whole, folders_eq folder, List.tail_cons]
  by_cases lost : (∃ s ∈ inner, s = []) ∨
      ∃ s ∈ textsOf identity' extra segments, IsDots s
  · -- Something is lost: there are too few segments, or the last one is empty.
    refine iff_of_false ?_ ?_
    · rintro ⟨texts, fills, same⟩
      rcases Reference.removeDots_loses lost with fewer | empty
      · rw [same, fills_length (fills_texts identity' extra _)] at fewer
        simp only [List.length_cons, List.length_append, fills_length fills] at fewer
        omega
      · rw [same, List.getLast?_append] at empty
        have last := fills_filled sound filled fills
        cases hl : texts.getLast? with
        | none =>
          rw [List.getLast?_eq_none_iff] at hl
          rw [hl] at fills
          cases fills with
          | nil => exact nonempty rfl
        | some final =>
          rw [hl] at empty
          cases empty
          exact last (List.mem_of_getLast? hl)
    · rintro ⟨named, plain⟩
      rcases lost with ⟨s, hs, empty⟩ | hd
      · exact named s hs empty
      · obtain ⟨name, hn, hd⟩ := dots.mp hd
        exact plain name hn hd
  · rw [not_or] at lost
    have front : inner.filter (!·.isEmpty) = inner := by
      rw [List.filter_eq_self]
      intro s hs
      have named : s ≠ [] := fun empty => lost.1 ⟨s, hs, empty⟩
      simpa using named
    refine iff_of_true ⟨_, fills_texts identity' extra _, ?_⟩ ⟨?_, ?_⟩
    · rw [front]
      refine Reference.removeDots_same ?_ fun s hs hd => lost.2 ⟨s, hs, hd⟩
      exact folder.undotted
    · exact fun s hs empty => lost.1 ⟨s, hs, empty⟩
    · exact fun name hn hd => lost.2 (dots.mpr ⟨name, hn, hd⟩)

/-! ## Runs -/

/-- The world behind the run of an operation. A list is walked, for a caller who wants so
many items, or all if no number is given. -/
def Operation.after (client : Client) (identity : Option Identity)
    (query : Option QueryOptions) (parameters : Parameters) (location : Option String)
    (demand : Option Nat) (world : World) : Operation → World
  | list operation =>
    match client.list operation identity query with
    | .ok pager => (pager.items world.leave demand none world).2
    | .error _ => world
  | call operation => ((client.call operation identity parameters location).run world).2
  | long operation => ((client.runLong operation identity parameters).run world).2

def Client.AsksAt (client : Client) (path : String) (request : Request) : Prop :=
  ∃ method params json, client.Asks method path params json request

theorem deeds_append {before after : World} {done : List Event}
    (h : after.events = before.events ++ done) :
    after.deeds = before.deeds ++ done.filterMap Event.deed? := by
  unfold World.deeds
  rw [h, List.filterMap_append]

/-- Where an action goes on behind a turn, the first request is the one of the turn. -/
theorem bind_first {client : Client} {α : Type} {method reference : String}
    {params : Option (List (String × String))} {json : Json} {world : World}
    {fetch : Action Response} {more : Response → Action α} {request : Request}
    {rest : List Deed}
    (turn : client.Turn method reference params json world (fetch.run world).1
      (fetch.run world).2)
    (keeps : ∀ response, client.Keeps (more response))
    (sent : ((fetch >>= more).run world).2.deeds = world.deeds ++ .asked request :: rest) :
    client.AsksAt reference request := by
  rw [Action.run_bind] at sent
  rcases hf : fetch.run world with ⟨failure | response, ready⟩
  · rw [hf] at turn sent
    dsimp only at turn sent
    generalize Except.error failure = result at turn
    cases turn with
    | unsent why deeds left =>
      rw [deeds] at sent
      simp at sent
    | sent asks leaves deeds replies =>
      rw [deeds, List.append_cancel_left_eq] at sent
      cases sent
      exact ⟨_, _, _, asks⟩
  · rw [hf] at turn sent
    obtain ⟨done, behind, -⟩ := keeps response ready
    dsimp only at turn sent
    generalize he : Except.ok response = result at turn
    cases turn with
    | unsent why deeds left => cases he
    | sent asks leaves deeds replies =>
      rw [deeds_append behind, deeds, List.append_assoc, List.append_cancel_left_eq] at sent
      cases sent
      exact ⟨_, _, _, asks⟩

theorem items_first {client : Client} {operation : ListOperation} {path : String}
    {query : Option QueryOptions} {demand : Option Nat} {world : World} {request : Request}
    {rest : List Deed}
    (sent : (Pager.items ⟨client.fetchPage operation path (queryParams query), none⟩ world.leave
      demand none world).2.deeds = world.deeds ++ .asked request :: rest) :
    client.AsksAt path request := by
  unfold Pager.items Pager.walk at sent
  split at sent
  · simp at sent
  · rename_i more
    obtain ⟨steps, listing, -, deeds⟩ := walkFrom_listing client operation path query world.leave
      0 demand none world (Nat.lt_succ_self _) (by simp) more
    have same : steps.filterMap ListingStep.deed? = .asked request :: rest := by
      rw [← List.append_cancel_left_eq world.deeds, ← deeds]
      exact sent
    generalize Walk.ending _ = ending at listing
    cases listing with
    | nothing => cases same
    | unsent more why => cases same
    | failed more leaves asks bad =>
      cases same
      exact ⟨_, _, _, asks⟩
    | enough more leaves asks good fits =>
      cases same
      exact ⟨_, _, _, asks⟩
    | last leaves asks good wanted ends =>
      cases same
      exact ⟨_, _, _, asks⟩
    | next leaves asks good wanted link_eq rest =>
      cases same
      exact ⟨_, _, _, asks⟩

/-- The stages of a call, with the values of its path. -/
theorem call_stages (client : Client) (operation : CallOperation) (identity : Option Identity)
    (parameters : Parameters) (location : Option String) :
    client.call operation identity parameters location =
      client.submit operation.method (operation.bodyRule.body parameters)
        (client.operationPath operation.path identity none
          (Operation.values location (.call operation)))
        fun _ response =>
          Action.ofExcept id (operation.reading.read operation.success response) := by
  have values : (if operation = .lookUpName then [("location", location)] else []) =
      Operation.values location (.call operation) := by
    cases operation <;> rfl
  rw [call_submit, values]

theorem call_run {client : Client} {operation : CallOperation} {identity : Option Identity}
    {parameters : Parameters} {location : Option String} {json : Json} {path : String}
    (hb : operation.bodyRule.body parameters = .ok json)
    (hp : client.operationPath operation.path identity none
      (Operation.values location (.call operation)) = .ok path) (world : World) :
    (client.call operation identity parameters location).run world =
      (client.send operation.method path [] json [] >>= fun response =>
        Action.ofExcept id (operation.reading.read operation.success response)).run world := by
  rw [call_stages, hb, hp, submit_run]

/-- The first request behind the checks of an operation is at the path that was checked. -/
theorem submit_first {client : Client} {α : Type} {method : String} {body : Except Failure Json}
    {place : Except Failure String} {behind : String → Response → Action α} {world : World}
    {request : Request} {rest : List Deed}
    (keeps : ∀ path response, client.Keeps (behind path response))
    (sent : ((client.submit method body place behind).run world).2.deeds =
      world.deeds ++ .asked request :: rest) :
    ∃ path, place = .ok path ∧ client.AsksAt path request := by
  cases body with
  | error failure =>
    rw [submit_unfit] at sent
    simp at sent
  | ok json =>
    cases place with
    | error failure =>
      rw [submit_unplaced] at sent
      simp at sent
    | ok path =>
      have turn := send_turn client method path [] json [] world
      rw [submit_run] at sent
      exact ⟨path, rfl, bind_first turn (keeps path) sent⟩

/-- The first request of an operation is at its path. -/
theorem after_first {client : Client} {operation : Operation} {identity : Option Identity}
    {query : Option QueryOptions} {parameters : Parameters} {location : Option String}
    {demand : Option Nat} {world : World} {request : Request} {rest : List Deed}
    (sent : (operation.after client identity query parameters location demand world).deeds =
      world.deeds ++ .asked request :: rest) :
    ∃ query path,
      client.operationPath operation.path identity query (operation.values location) = .ok path ∧
        client.AsksAt path request := by
  cases operation with
  | list operation =>
    dsimp only [Operation.after] at sent
    cases hp : client.operationPath operation.path identity query [] with
    | error failure =>
      rw [list_unplaced operation hp] at sent
      simp at sent
    | ok path =>
      rw [list_placed operation hp] at sent
      exact ⟨query, path, hp, items_first sent⟩
  | call operation =>
    dsimp only [Operation.after] at sent
    rw [call_stages] at sent
    obtain ⟨path, hp, asks⟩ := submit_first (fun _ _ => keeps_ofExcept _ _) sent
    exact ⟨none, path, hp, asks⟩
  | long operation =>
    dsimp only [Operation.after] at sent
    rw [runLong_submit] at sent
    obtain ⟨path, hp, asks⟩ := submit_first (keeps_habit.settle operation) sent
    exact ⟨none, path, hp, asks⟩

/-- A call of an open client sends its request and no other, if its arguments are right and
its path is reached. -/
theorem call_reaches {client : Client} {base : Url} {operation : CallOperation}
    {identity : Option Identity} {query : Option QueryOptions} {parameters : Parameters}
    {location : Option String} {demand : Option Nat} {json : Json} {body : Body} {path : String}
    (hb : operation.bodyRule.body parameters = .ok json) (value : Client.bodyOf json = .ok body)
    (hp : client.operationPath operation.path identity none
      (Operation.values location (.call operation)) = .ok path)
    (reaches : client.Reaches base path) (ready : client.IsOpen) (world : World) :
    ∃ request, ((Operation.call operation).after client identity query parameters location
      demand world).deeds = world.deeds ++ [.asked request] := by
  obtain ⟨request, -, -, deeds, -⟩ := send_reaches reaches ready value operation.method [] world
  refine ⟨request, ?_⟩
  unfold Operation.after
  dsimp only
  rw [call_run hb hp, Action.run_bind]
  rcases hs : (client.send operation.method path [] json []).run world with ⟨_ | response, after⟩
  · rw [hs] at deeds
    exact deeds
  · rw [hs] at deeds
    dsimp only
    rw [Action.run_ofExcept]
    exact deeds

def Operation.value (client : Client) (identity : Option Identity) (location : Option String)
    (operation : Operation) (name : String) : String :=
  Client.nameValue (some (client.scope identity)) (operation.values location) name

/-- Whatever an operation is run with, its first request addresses what the values name if
and only if none of them is a dot segment and no folder of the base URL is without a name.
With a dot segment, the request goes to another resource. -/
theorem after_addresses {client : Client} {base : Url}
    (hb : Url.parse client.baseUrl = .ok base) (root : base.IsRoot) {operation : Operation}
    {identity : Option Identity} {query : Option QueryOptions} {parameters : Parameters}
    {location : Option String} {demand : Option Nat} {world : World} {request : Request}
    {rest : List Deed}
    (sent : (operation.after client identity query parameters location demand world).deeds =
      world.deeds ++ .asked request :: rest) :
    Addresses base request.url operation.path (operation.value client identity location) ↔
      (∀ folder ∈ base.folders.tail, folder ≠ []) ∧
        ∀ name ∈ namesOf operation.path,
          ¬IsDots (operation.value client identity location name).toList := by
  obtain ⟨query, path, hp, method, params, json, asks⟩ := after_first sent
  exact asks_addresses hb root operation hp asks

/-- A firewall rule with the name of a double dot: the request to delete it is sent, but
not to its place. -/
theorem after_addresses_dots :
    ∃ request,
      ((Operation.call .deleteFirewallRule).after (Client.ofSettings .standard)
        (some ⟨some "s", some "g", some "a", some "..", none⟩) none (.plain .null) none none
        (World.fresh [] 1000 none)).deeds = [.asked request] ∧
      Url.parse (Client.ofSettings .standard).baseUrl = .ok standardBase ∧ standardBase.IsRoot ∧
      ¬Addresses standardBase request.url Path.firewallRule
        ((Operation.call .deleteFirewallRule).value (Client.ofSettings .standard)
          (some ⟨some "s", some "g", some "a", some "..", none⟩) none) := by
  have sound : isSound false Path.firewallRule = true := path_sound (.call .deleteFirewallRule)
  have unwritten : CallOperation.deleteFirewallRule.bodyRule.body (.plain .null) = .ok .null := rfl
  have value : Client.bodyOf .null = .ok .none := rfl
  obtain ⟨path, hp⟩ : ∃ path, (Client.ofSettings .standard).operationPath
      CallOperation.deleteFirewallRule.path
      (some ⟨some "s", some "g", some "a", some "..", none⟩) none
      (Operation.values none (.call .deleteFirewallRule)) = .ok path := ⟨_, rfl⟩
  obtain ⟨problems, whole⟩ := buildPath_ok (sound_plain sound) hp
  have below : IsBelow path := by
    rw [whole]
    exact pathText_below sound (by decide) (nameValue_ne problems)
  have short : path.length + 30 ≤ Url.lengthLimit := by
    rw [whole]
    decide +kernel
  have reaches := standard_reaches below short
  obtain ⟨request, sent⟩ : ∃ request, ((Operation.call .deleteFirewallRule).after
      (Client.ofSettings .standard) (some ⟨some "s", some "g", some "a", some "..", none⟩) none
      (.plain .null) none none (World.fresh [] 1000 none)).deeds =
        (World.fresh [] 1000 none).deeds ++ .asked request :: [] :=
    call_reaches unwritten value hp reaches standard_open _
  have addresses := after_addresses reaches.parsed reaches.root sent
  refine ⟨request, sent, reaches.parsed, reaches.root, fun addressed => ?_⟩
  obtain ⟨-, plain⟩ := addresses.mp addressed
  exact plain "child_name" (by decide) (by decide +kernel)

end LakeAdmin
