import LakeAdmin.Failure
import LakeAdmin.Http.Message
import LakeAdmin.ListCache
import LakeAdmin.Model.Resource

/-!
What a call can see and do: the answers that are to come, the clock, the caches that
outlive a call, and the record of everything done. A call is an `Action`, which may
fail; what was done before the failure stays done.
-/

namespace LakeAdmin.Http

/-- What is to come of a request. -/
inductive Reply where
  | response (response : Response)
  | broken (kind message : String)

inductive Note where
  | answered (method url : String) (status : Int)
  | withheld (url : String)
  | pollState (url : String) (attempt : Nat) (state : String)
  | pollStatus (url : String) (attempt : Nat) (status : Int)
  | listed (count : Nat) (subscription : Option String)
  | faultPassedOn (fault : Fault)
  | malformedPassedOn (status : Int) (reason : Undecodable)
  | configured (baseUrl apiVersion : String) (subscription client : Option String)

/-- A text that may be absent, in a line of the log. -/
def orNone (value : Option String) : String := value.getD "None"

/-- The text of a line: its level, where it comes from, and what it says. -/
def Note.text : Note → String
  | answered method url status =>
    "DEBUG connectors.datalake.client: " ++ method ++ " " ++ url ++ " -> " ++ toString status
  | withheld url =>
    "WARNING connectors.datalake.client: not sending credentials to foreign host: " ++ url
  | pollState url attempt state =>
    "DEBUG connectors.datalake.lro: lro poll " ++ url ++ " attempt=" ++ toString attempt ++
      " state=" ++ state
  | pollStatus url attempt status =>
    "DEBUG connectors.datalake.lro: lro poll " ++ url ++ " attempt=" ++ toString attempt ++
      " status=" ++ toString status
  | listed count subscription =>
    "INFO connectors.datalake.explorer: listed " ++ toString count ++
      " accounts for subscription=" ++ orNone subscription
  | faultPassedOn fault =>
    "WARNING datalake-hub: upstream fault " ++ toString fault.status ++ " on " ++
      orNone fault.method ++ " " ++ orNone fault.url
  | malformedPassedOn status reason =>
    "WARNING datalake-hub: malformed upstream response (status " ++ toString status ++ "): " ++
      reason.message
  | configured baseUrl apiVersion subscription client =>
    "INFO datalake-hub: CFG arm=" ++ baseUrl ++ " api-version=" ++ apiVersion ++
      " subscription=" ++ orNone subscription ++ " client=" ++ orNone client

/-- Something that was done. -/
inductive Event where
  | sent (request : Request)
  | slept (seconds : Binary64)
  | noted (note : Note)

structure HeldToken where
  scope : String
  token : Document
  expiresAt : Binary64

/-- Everything outside a call. What the clock shows is a matter of how much has been done:
every request, wait and line of the log may take its time. -/
structure World where
  replies : List Reply
  time : Nat → Binary64
  events : List Event
  ids : Nat
  tokens : List HeldToken
  lists : ListCache (List Resource)

namespace World

/-- A world in which nothing has been done yet, and whose clock stands still. -/
def fresh (replies : List Reply) (clock : Binary64) (ttl : Option Binary64) : World :=
  ⟨replies, fun _ => clock, [], 0, [], .empty ttl⟩

def clock (world : World) : Binary64 := world.time world.events.length

def requests (world : World) : List Request :=
  world.events.filterMap fun
    | .sent request => some request
    | _ => none

def sleeps (world : World) : List Binary64 :=
  world.events.filterMap fun
    | .slept seconds => some seconds
    | _ => none

def notes (world : World) : List Note :=
  world.events.filterMap fun
    | .noted note => some note
    | _ => none

/-- Enough fetches for every walk: one more than there are answers. -/
def leave (world : World) : Nat := world.replies.length + 1

def record (world : World) (event : Event) : World :=
  { world with events := world.events ++ [event] }

end World

/-- Work in the world that may fail. -/
abbrev Action (α : Type) := ExceptT Failure (StateM World) α

namespace Action

def note (n : Note) : Action Unit := modify (·.record (.noted n))

def sleep (seconds : Binary64) : Action Unit := modify (·.record (.slept seconds))

def ofExcept (wrap : ε → Failure) : Except ε α → Action α
  | .ok a => pure a
  | .error e => throw (wrap e)

/-- Runs an action to its end: what came of it, and the world after it. -/
def run (action : Action α) (world : World) : Except Failure α × World :=
  StateT.run (ExceptT.run action) world

/-- The hexadecimal digits of a number as a request id of version four. -/
def idText (n : Nat) : String :=
  "00000000-0000-4000-8000-" ++ String.ofList (Text.hexLower 12 n)

/-- An id that no request has had. -/
def freshId : Action String := do
  let world ← get
  set { world with ids := world.ids + 1 }
  return idText world.ids

def nextReply : Action (Option Reply) := do
  let world ← get
  match world.replies with
  | [] => return none
  | reply :: rest =>
    set { world with replies := rest }
    return some reply

end Action

end LakeAdmin.Http
