import LakeAdmin.Proofs.Client.Arguments
import LakeAdmin.Proofs.Service.Hearing

/-!
Walks that falter. A request for a page may bring no response: it is not sent, or there is no
reply to it, or none that is handed on. A walk that comes to such a request ends there and fails
as the request does; any other walk hears a response to every request. There is no third way.
-/

namespace LakeAdmin

open Http

variable {client : Client} {operation : ListOperation} {path : String}
  {query : Option QueryOptions} {token : Option Wide} {world after : World} {failure : Failure}

/-! ## Requests without a response -/

/-- The walks from a token on that come to a request without a response, and how it fails. -/
inductive Client.Falters (client : Client) (operation : ListOperation) (path : String)
    (query : Option QueryOptions) : Option Wide → World → Failure → Prop
  /-- The first request brings none. -/
  | here {token : Option Wide} {world after : World} {failure : Failure}
      (asked : (client.askPage operation path query token).run world = (.error failure, after)) :
      Client.Falters client operation path query token world failure
  /-- The first request brings a page, and the walk falters behind it. -/
  | later {token : Option Wide} {world after : World} {response : Response}
      {page : Page Resource} {link : Wide} {failure : Failure}
      (asked : (client.askPage operation path query token).run world = (.ok response, after))
      (good : response.resources = .ok page) (continues : page.continuation = some link)
      (rest : Client.Falters client operation path query (some link) after failure) :
      Client.Falters client operation path query token world failure

namespace Explorer

end Explorer

end LakeAdmin
