import LakeAdmin.Proofs.Service.Addressing
import LakeAdmin.Proofs.Service.Polling

/-!
Operations whose first response names no place to ask. There is nothing to wait for then, and an
operation that would be waited for does what the call does that only begins it: one request is
sent, and its response says what comes of both. The one exception is an update that the service
has accepted but not yet made: the account is read once more, and what is read is the result.
-/

namespace LakeAdmin

open Http LakeAdmin.Path Poller

variable {client : Client} {operation : LongOperation} {identity : Option Identity}
  {parameters : Parameters} {body : Json} {path : String} {initial : Response}
  {world ready : World}

/-! ## The call that begins an operation -/

/-- The call that begins an operation and does not wait for it. -/
def LongOperation.begun : LongOperation → CallOperation
  | createAccount => .beginCreateAccount
  | updateAccount => .beginUpdateAccount
  | deleteAccount => .beginDeleteAccount

theorem wait_placeless (none : placeOf? initial = none) (resource : Option String) :
    wait client initial resource =
      if initial.status = 202 then
        match resource.filter (· ≠ "") with
        | some path => client.send "GET" path [] .null []
        | .none => pure initial
      else pure initial := by
  unfold placeOf? at none
  unfold wait
  split at none
  · cases none
  · rename_i missing
    have nowhere := Option.map_eq_none_iff.mp none
    cases resource.filter (· ≠ "") with
    | none => simp [missing, nowhere]
    | some path => simp [missing, nowhere]

end LakeAdmin
