import LakeAdmin.Client.Basic
import LakeAdmin.Http.Decode

/-!
Operations that take long. The service accepts them and names a place to ask how they
are: a status document, or a place that answers 202 until the operation is done. The
place is asked again and again, with a wait before each time, and at most as often as
the client allows.
-/

namespace LakeAdmin.Poller

open Http

/-- The state of an operation that is done. -/
def succeeded : String := "succeeded"

/-- The states of an operation that will never be done. -/
def failures : List String := ["failed", "canceled", "cancelled"]

/-- How long to wait after an answer: as long as it says, but not less than no time;
the usual interval if it says nothing that is a number. -/
def delay (response : Response) (interval : Binary64) : Binary64 :=
  match (response.headers.filled? "Retry-After").bind Literal.lenientDecimal? with
  | some seconds => seconds.clampToZero
  | none => interval

/-- Waits as an answer says, and asks once more. -/
def ask (client : Client) (url : String) (last : Response) : Action Response := do
  Action.sleep (delay last client.pollInterval)
  client.fetchNext url

/-- The state that a status document names, in lower case. -/
def stateOf (status : Option OperationStatus) : String :=
  Text.lower ((status.bind (·.status)).elim "" Wide.shown)

/-- The failure that a status document reports: its error, or all of the document. -/
def failureOf (response : Response) (url : String) (status : OperationStatus) : Failure :=
  let body := if status.error.isNull then .obj status.toMembers else status.error
  .operationFailed ⟨response.status, body, some "GET", some url⟩ (status.status.elim "" Wide.shown)

/-- Asks for the status document at most `left` times, until it names a final state. -/
def pollStatus (client : Client) (url : String) (left attempt : Nat) (last : Response) :
    Action Response :=
  match left with
  | 0 => throw (.timedOut client.maxPolls)
  | left + 1 => do
    let last ← ask client url last
    let status ← Action.ofExcept id
      (last.value "OperationStatus" OperationStatus.check [200])
    let state := stateOf status
    Action.note (.pollState url attempt state)
    if state = succeeded then return last
    else
      match status with
      | some document =>
        if failures.contains state then throw (failureOf last url document)
        else pollStatus client url left (attempt + 1) last
      | none => pollStatus client url left (attempt + 1) last

/-- Asks at a place at most `left` times, until it answers other than 202. -/
def pollLocation (client : Client) (url : String) (left attempt : Nat) (last : Response) :
    Action Response :=
  match left with
  | 0 => throw (.timedOut client.maxPolls)
  | left + 1 => do
    let last ← ask client url last
    Action.note (.pollStatus url attempt last.status)
    if last.status = 202 then pollLocation client url left (attempt + 1) last
    else if [200, 201, 204].contains last.status then return last
    else throw last.refused

/-- Waits for an operation that `initial` accepted. With the path of a resource, the
resource is read at the end. -/
def wait (client : Client) (initial : Response) (resource : Option String) :
    Action Response := do
  let resource := resource.filter (· ≠ "")
  let polls := client.maxPolls.toNat
  let finish := fun (last : Response) =>
    match resource with
    | some path => client.send "GET" path [] .null []
    | none => pure last
  match initial.headers.filled? "Azure-AsyncOperation", initial.headers.filled? "Location" with
  | some url, _ => do
    let last ← pollStatus client url polls 1 initial
    finish last
  | none, some url => do
    let last ← pollLocation client url polls 1 initial
    finish last
  | none, none => if initial.status = 202 then finish initial else return initial

end LakeAdmin.Poller
