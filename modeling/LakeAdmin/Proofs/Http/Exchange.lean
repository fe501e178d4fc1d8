import LakeAdmin.Http.Exchange
import LakeAdmin.Proofs.Http.Action

/-!
What one exchange does: it puts the request on record and takes the next reply off the
queue. What comes of it is a function of the request and that reply alone.

The deeds of a world are the requests to the service and the waits, in their order.
Requests for tokens carry a form and are no deeds, nor are lines of the log.
-/

namespace LakeAdmin.Http

def Body.isForm : Body → Bool
  | .form _ => true
  | _ => false

/-- Something done to the service: a request, or a wait before the next one. -/
inductive Deed where
  | asked (request : Request)
  | slept (seconds : Binary64)

def Deed.isWait : Deed → Bool
  | .asked _ => false
  | .slept _ => true

def Event.deed? : Event → Option Deed
  | .sent request => if request.body.isForm then none else some (.asked request)
  | .slept seconds => some (.slept seconds)
  | .noted _ => none

/-- Everything done to the service, in order. -/
def World.deeds (world : World) : List Deed := world.events.filterMap Event.deed?

/-- What comes of a request when these replies are to come. -/
def outcome (request : Request) : List Reply → Except Failure Response
  | [] => .error (.raised "ConnectError" "no queued response")
  | .broken kind message :: _ => .error (.raised kind message)
  | .response response :: _ => accept request response

/-- The world after a request was sent and the next reply taken. -/
def World.spend (world : World) (request : Request) : World :=
  { world.record (.sent request) with replies := world.replies.tail }

@[simp] theorem record_replies (world : World) (event : Event) :
    (world.record event).replies = world.replies := rfl

@[simp] theorem record_events (world : World) (event : Event) :
    (world.record event).events = world.events ++ [event] := rfl

@[simp] theorem spend_events (world : World) (request : Request) :
    (world.spend request).events = world.events ++ [.sent request] := rfl

theorem deeds_record (world : World) (event : Event) :
    (world.record event).deeds = world.deeds ++ event.deed?.toList := by
  simp only [World.deeds, record_events, List.filterMap_append]
  cases h : event.deed? <;> simp [h]

@[simp] theorem deeds_noted (world : World) (n : Note) :
    (world.record (.noted n)).deeds = world.deeds := by
  simp [deeds_record, Event.deed?]

@[simp] theorem deeds_slept (world : World) (seconds : Binary64) :
    (world.record (.slept seconds)).deeds = world.deeds ++ [.slept seconds] := by
  simp [deeds_record, Event.deed?]

theorem deeds_spend_form {request : Request} (h : request.body.isForm = true) (world : World) :
    (world.spend request).deeds = world.deeds := by
  simp [World.deeds, Event.deed?, h]

theorem deeds_spend {request : Request} (h : request.body.isForm = false) (world : World) :
    (world.spend request).deeds = world.deeds ++ [.asked request] := by
  simp [World.deeds, Event.deed?, h]

/-- Nothing but lines of the log lies between two worlds. -/
def World.Quiet (before after : World) : Prop :=
  ∃ lines : List Note, after.events = before.events ++ lines.map .noted

theorem quiet_same {before after : World} (same : after.events = before.events) :
    World.Quiet before after := ⟨[], by simp [same]⟩

theorem quiet_noted (world : World) (line : Note) : World.Quiet world (world.record (.noted line)) :=
  ⟨[line], rfl⟩

theorem World.Quiet.trans {first second third : World} (h : first.Quiet second)
    (h' : second.Quiet third) : first.Quiet third := by
  obtain ⟨lines, earlier⟩ := h
  obtain ⟨others, later⟩ := h'
  exact ⟨lines ++ others, by rw [later, earlier, List.map_append, List.append_assoc]⟩

theorem World.Quiet.requests {before after : World} (h : before.Quiet after) :
    after.requests = before.requests := by
  obtain ⟨lines, events⟩ := h
  simp [World.requests, events]

theorem exchange_run (request : Request) (world : World) :
    (exchange request).run world = (outcome request world.replies, world.spend request) := by
  unfold exchange
  rw [Action.run_bind_ok (Action.run_modify _ _)]
  cases h : world.replies with
  | nil =>
    have hn : Action.nextReply.run (world.record (.sent request)) =
        (.ok none, world.record (.sent request)) := by
      simp [Action.nextReply, Action.run_bind, h]
    rw [Action.run_bind_ok hn]
    simp [outcome, World.spend, h, World.record]
  | cons reply rest =>
    have hn : Action.nextReply.run (world.record (.sent request)) =
        (.ok (some reply), world.spend request) := by
      simp [Action.nextReply, Action.run_bind, h, World.spend, Except.map]
    rw [Action.run_bind_ok hn]
    cases reply with
    | broken kind message => rfl
    | response response => exact Action.run_ofExcept _ _

/-- An exchange that brings a response takes a reply off the queue. -/
theorem outcome_ok_length {request : Request} {replies : List Reply} {response : Response}
    (h : outcome request replies = .ok response) : replies.tail.length < replies.length := by
  cases replies with
  | nil => cases h
  | cons _ _ => simp

end LakeAdmin.Http
