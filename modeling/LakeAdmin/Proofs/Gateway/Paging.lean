import LakeAdmin.Proofs.Client.Arguments
import LakeAdmin.Proofs.Gateway.Outcome
import LakeAdmin.Proofs.Model.Writable
import LakeAdmin.Proofs.Service.Confinement
import LakeAdmin.Proofs.Service.Receiving
import LakeAdmin.Proofs.Text.Form

/-!
A list that is read from the gateway page by page, beside a walk over it. Who reads it sends
the token of each answer back with the next request, and nothing else is kept in between.

Both go in step: as long as the links lead to the own host, the same requests are sent, and
an answer holds what the walk hands on. They part at a link that leads elsewhere. The walk
goes on there, and the gateway does nothing more: it refuses the token, or breaks off where
the host of the link cannot be read.
-/

namespace LakeAdmin.Gateway

open Http Text Url

/-! ## Readers -/

/-- Who reads a list: where it is, and what is asked of it beside the token. -/
structure Reader where
  path : String
  params : List (String × String)

def Reader.request (reader : Reader) (token : Option String) : Request :=
  ⟨"GET", reader.path,
    some (Form.encode (reader.params ++ token.toList.map fun link => ("page_token", link)))⟩

/-- The token that an answer holds for the next page, unless it is null or empty. -/
def Answer.nextToken? (answer : Answer) : Option String :=
  match answer.content with
  | .json (.obj members) =>
    if answer.status = 200 then
      match Members.get? members "next_page_token" with
      | some (.str (.plain link)) => linkOf (some link)
      | _ => none
    else none
  | _ => none

/-- An answer, and those for its token, if it holds one. -/
def readOn (rest : String → World → List Answer × World) (answered : Answer × World) :
    List Answer × World :=
  match answered.1.nextToken? with
  | none => ([answered.1], answered.2)
  | some link => (answered.1 :: (rest link answered.2).1, (rest link answered.2).2)

/-- Reads a list from the page of a token on, until an answer holds no token. -/
def Reader.read (hub : Hub) (reader : Reader) :
    (leave : Nat) → (token : Option String) → World → List Answer × World
  | 0, _, world => ([], world)
  | leave + 1, token, world =>
    readOn (fun link => reader.read hub leave (some link))
      (answer hub (reader.request token) world)

def pageAnswer (page : Page Resource) : Answer := ⟨200, .json (pageJson page), none, none, none⟩

/-- Some reply holds what cannot be shown in an answer. -/
def Unfit (room : Room) (replies : List Reply) : Prop :=
  ∃ reply, .response reply ∈ replies ∧ ¬room.Fits reply

theorem Unfit.mono {room : Room} {replies more : List Reply} (h : Unfit room replies)
    (part : replies <:+ more) : Unfit room more := by
  obtain ⟨reply, hr, unfit⟩ := h
  exact ⟨reply, part.subset hr, unfit⟩

/-- A failure that is passed on: a refusal, or a body that is of no use. -/
def isPassedOn : Failure → Bool
  | .fault _ | .malformed .. => true
  | _ => false

/-- A page as it is fetched in a walk, and as it is answered where its token may be followed. -/
inductive Beside (room : Room) (before : World) :
    Except Failure (Page Resource) × World → Answer × World → Prop
  | page {page : Page Resource} {after : World}
      (deeds : after.deeds.length = before.deeds.length + 1)
      (shorter : after.replies.length < before.replies.length)
      (left : after.replies <:+ before.replies)
      (written : (pageJson page).IsWritable (room.levels 200)) :
      Beside room before (.ok page, after) (pageAnswer page, after)
  | unwritten {page : Page Resource} {failure : Failure} {after : World}
      (deeds : after.deeds.length = before.deeds.length + 1)
      (blocked : Answer.obstacle? (room.levels 200) (pageJson page) = some failure)
      (unfit : Unfit room before.replies) :
      Beside room before (.ok page, after) (.broken failure, after)
  | failed {failure : Failure} {after left : World}
      (requests : left.requests = after.requests) (replies : left.replies = after.replies)
      (passed : isPassedOn failure = true →
        (ofFailure room failure).2.status = 502 ∨ Unfit room before.replies) :
      Beside room before (.error failure, after) ((ofFailure room failure).2, left)

/-- A link of a walk that may be followed by way of the gateway as well. -/
def IsOwn (client : Client) (link : Option Wide) : Prop :=
  ∃ token : Option String, link = token.map .plain ∧ Admits client token

/-- What a reader gets beside a walk, and what it does to the world. -/
inductive Follows (client : Client) (room : Room) (before : World)
    (walk : Walk Failure Resource) (after : World) : List Answer → World → Prop
  /-- All links lead to the own host, and the walk comes to the end of the list: each page is
  answered, with what the walk hands on of it, and the world becomes what the walk makes it. -/
  | whole {pages : List (Page Resource)} {last : Page Resource}
      (own : ∀ token ∈ walk.fetched, IsOwn client token) (ends : walk.ending = .exhausted)
      (turns : walk.fetched.length = (pages ++ [last]).length)
      (items : walk.delivered = (pages ++ [last]).flatMap Page.items)
      (bare : last.continuation = none) :
      Follows client room before walk after ((pages ++ [last]).map pageAnswer) after
  /-- All links lead to the own host, and the walk fails: the pages before are answered, and
  then the failure, once the same requests are sent and the same replies have come. Where it is
  passed on, it is as a failure of the service, unless the replies cannot be shown. -/
  | failed {pages : List (Page Resource)} {failure : Failure} {left : World}
      (own : ∀ token ∈ walk.fetched, IsOwn client token) (ends : walk.ending = .failed failure)
      (turns : walk.fetched.length =
        (pages.map pageAnswer ++ [(ofFailure room failure).2]).length)
      (items : walk.delivered = pages.flatMap Page.items)
      (requests : left.requests = after.requests) (replies : left.replies = after.replies)
      (passed : isPassedOn failure = true →
        (ofFailure room failure).2.status = 502 ∨ Unfit room before.replies) :
      Follows client room before walk after
        (pages.map pageAnswer ++ [(ofFailure room failure).2]) left
  /-- Some link leads elsewhere: the walk goes on there. The gateway answers the pages before,
  with one request for each, and then refuses the token, with none. -/
  | parted {pages : List (Page Resource)} {front rest : List (Option Wide)} {link : String}
      {refusal : Answer} {left : World}
      (fetched : walk.fetched = front ++ some (.plain link) :: rest)
      (own : ∀ token ∈ front, IsOwn client token) (refuses : Refuses client link refusal)
      (turns : front.length = pages.length)
      (items : pages.flatMap Page.items <+: walk.delivered)
      (requests : left.requests <+: after.requests)
      (deeds : left.deeds.length = before.deeds.length + pages.length) :
      Follows client room before walk after (pages.map pageAnswer ++ [refusal]) left
  /-- Some page cannot be shown: the walk hands it on. The gateway answers the pages before, and
  breaks off at this one, with one request for each of them. -/
  | cut {pages : List (Page Resource)} {page : Page Resource} {front rest : List (Option Wide)}
      {failure : Failure} {left : World} (fetched : walk.fetched = front ++ rest)
      (own : ∀ token ∈ front, IsOwn client token)
      (turns : front.length = (pages ++ [page]).length)
      (items : (pages ++ [page]).flatMap Page.items <+: walk.delivered)
      (requests : left.requests <+: after.requests)
      (deeds : left.deeds.length = before.deeds.length + (pages ++ [page]).length)
      (blocked : Answer.obstacle? (room.levels 200) (pageJson page) = some failure)
      (unfit : Unfit room before.replies) :
      Follows client room before walk after (pages.map pageAnswer ++ [.broken failure]) left

/-- A page in front of both. -/
theorem Follows.behind {client : Client} {room : Room} {token : Option Wide}
    {before middle after left : World} {walk : Walk Failure Resource} {answers : List Answer}
    (h : Follows client room middle walk after answers left) (page : Page Resource)
    (admitted : IsOwn client token) (deeds : middle.deeds.length = before.deeds.length + 1)
    (part : middle.replies <:+ before.replies) :
    Follows client room before (walk.after (.fetch token :: page.items.map .deliver)) after
      (pageAnswer page :: answers) left := by
  have admits {front : List (Option Wide)} (own : ∀ token ∈ front, IsOwn client token) :
      ∀ other ∈ token :: front, IsOwn client other :=
    List.forall_mem_cons.mpr ⟨admitted, own⟩
  have items {pages : List (Page Resource)}
      (part : pages.flatMap Page.items <+: walk.delivered) :
      (page :: pages).flatMap Page.items <+:
        (walk.after (.fetch token :: page.items.map .deliver)).delivered := by
    rwa [delivered_after, List.flatMap_cons, List.prefix_append_right_inj]
  cases h with
  | @whole pages last own ends turns items bare =>
    refine @Follows.whole _ _ _ _ _ (page :: pages) _ ?_ ends ?_ ?_ bare
    · rw [fetched_after]
      exact admits own
    · rw [fetched_after, List.length_cons, turns]
      rfl
    · rw [delivered_after, items]
      rfl
  | @failed pages failure left own ends turns items requests replies passed =>
    refine @Follows.failed _ _ _ _ _ (page :: pages) _ _ ?_ ends ?_ ?_ requests replies
      fun said => (passed said).imp_right fun unfit => unfit.mono part
    · rw [fetched_after]
      exact admits own
    · rw [fetched_after, List.length_cons, turns]
      rfl
    · rw [delivered_after, items]
      rfl
  | @parted pages front rest link refusal left fetched own refuses turns shown requests count =>
    refine @Follows.parted _ _ _ _ _ (page :: pages) (token :: front) rest _ _ _ ?_
      (admits own) refuses ?_ (items shown) requests ?_
    · rw [fetched_after, fetched]
      rfl
    · simp [turns]
    · rw [count, deeds, List.length_cons]
      omega
  | @cut pages last front rest failure left fetched own turns shown requests count blocked unfit =>
    refine @Follows.cut _ _ _ _ _ (page :: pages) last (token :: front) rest _ _ ?_
      (admits own) ?_ (items shown) requests ?_ blocked (unfit.mono part)
    · rw [fetched_after, fetched]
      rfl
    · rw [List.length_cons, turns]
      rfl
    · rw [count, deeds, List.cons_append, List.length_cons]
      omega

/-- A page that is fetched is handed on first, and what is sent for it is sent first. -/
theorem walkFrom_first {client : Client} {pager : Pager World Failure Resource}
    (keeps : client.KeepsPages pager.fetch) {token : Option Wide} {page : Page Resource}
    {world after : World} (fetched : pager.fetch token world = (.ok page, after))
    (leave seen : Nat) :
    page.items <+: (pager.walkFrom Page.items (leave + 1) seen none token world).1.delivered ∧
      after.requests <+:
        (pager.walkFrom Page.items (leave + 1) seen none token world).2.requests := by
  constructor
  · rw [Pager.walkFrom_page fetched]
    have alone : (pageStretch token page.items).delivered = page.items :=
      pageStretch_delivered token page.items
    unfold pageStretch at alone
    have whole : page.items <+: (⟨.fetch token :: page.items.map .deliver, .exhausted⟩ :
        Walk Failure Resource).delivered := ⟨[], by rw [alone, List.append_nil]⟩
    split
    · exact whole
    · split
      · exact whole
      · rw [delivered_after]
        exact List.prefix_append _ _
  · obtain ⟨done, events, -⟩ := walkFrom_behind pager Page.items leave seen none token world
      (walkFrom_keeps keeps Page.items leave)
    rw [fetched] at events
    unfold World.requests
    rw [events, List.filterMap_append]
    exact List.prefix_append _ _

theorem read_answered {hub : Hub} {reader : Reader} {token : Option String} {world after : World}
    {given : Answer} (answered : answer hub (reader.request token) world = (given, after))
    (leave : Nat) :
    reader.read hub (leave + 1) token world =
      readOn (fun link => reader.read hub leave (some link)) (given, after) := by
  rw [← answered]
  rfl

end LakeAdmin.Gateway
