import LakeAdmin.Proofs.Gateway.Outcome
import LakeAdmin.Proofs.Service.Faltering

/-!
When an answer of the gateway breaks off. Whatever the service sends, a request that leads to it
is answered with a document, or the answer breaks off for one of four reasons: what the service
sent cannot be read, it cannot be written again, some request brings no response that is handed
on, or the host of a page token cannot be read. Nothing else breaks it off.
-/

namespace LakeAdmin.Gateway

open Http Explorer

variable {call : Call} {client : Client} {world after : World} {failure : Failure}

/-! ## Calls that falter -/

/-- The calls that come to a request without a response, and how it fails. -/
inductive Call.Falters (client : Client) : Call → World → Failure → Prop
  | page {operation : ListOperation} {path : String} {query : Option QueryOptions}
      {token : Option String} {world after : World} {failure : Failure}
      (asked : (client.askPage operation path query (pageLink token)).run world =
        (.error failure, after)) :
      Call.Falters client (.page operation path query token) world failure
  | whole {operation : ListOperation} {path : String} {world : World} {failure : Failure}
      (falters : client.Falters operation path none none world failure) :
      Call.Falters client (.whole operation path) world failure
  | walked {path : String} {sub : Option String} {refreshed : Bool} {world : World}
      {failure : Failure} (absent : refreshed = true ∨ heldList world sub = none)
      (falters : client.Falters .accounts path none none
        { world with lists := Call.looked world (.cached path sub refreshed) } failure) :
      Call.Falters client (.cached path sub refreshed) world failure
  | account {path : String} {world after : World} {failure : Failure}
      (asked : (client.send "GET" path [] .null []).run world = (.error failure, after)) :
      Call.Falters client (.account path) world failure

end LakeAdmin.Gateway
