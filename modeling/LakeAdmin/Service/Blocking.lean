import LakeAdmin.Service.Operation

/-!
Calls made by a caller who waits for their end. What is there at once is handed over
at once. What has yet to be worked out is worked out on the spot, and a list is walked
to its end; inside a running loop neither can be done, and nothing is sent.
-/

namespace LakeAdmin

open Http

/-- What a call gives at first: something that is there, or work still to be done in
a state. -/
inductive Called (σ α : Type) where
  | ready (result : Except Failure α)
  | pending (work : σ → Except Failure α × σ)

def Called.wait (called : Called σ α) (insideLoop : Bool) (state : σ) :
    Except Failure α × σ :=
  match called with
  | .ready result => (result, state)
  | .pending work => if insideLoop then (.error .insideLoop, state) else work state

/-- A list as a call: wrong arguments show at once, the walk is still to be done. -/
def Client.listCalled (client : Client) (operation : ListOperation)
    (identity : Option Identity) (query : Option QueryOptions) :
    Called World (List Resource) :=
  match client.list operation identity query with
  | .error failure => .ready (.error failure)
  | .ok pager => .pending fun world => pager.collect world.leave none world

def Called.ofAction (action : Action α) : Called World α := .pending action.run

end LakeAdmin
