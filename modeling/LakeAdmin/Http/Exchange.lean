import LakeAdmin.Http.World
import LakeAdmin.Url.Reference

/-!
One request and its answer. Nothing is sent twice and no redirect is followed, but
the place that a redirect names has to make sense. A URL without a scheme or a host
is sent as a bare path, and its answer cannot be used.
-/

namespace LakeAdmin.Http

/-- The URL of a request: absolute, or else a bare path. Parameters, if there are
any, take the place of the query. -/
def requestUrl (address : String) (params : Option (List (String × String))) :
    Except UrlFault Url := do
  let url ← Url.parse address
  let url ← if url.isAbsolute then .ok url else url.onlyTarget
  match params with
  | none => return url
  | some pairs => url.withQuery (Text.Form.encode pairs)

/-- The host of a URL as it is read. -/
def hostName (url : Url) : Except Failure String := url.hostName.mapError .badHostName

/-- The place that a location names beside the URL of the request. One with a scheme
and without a host has the host of the request. -/
def placeBeside (url place : Url) : Except Failure Url := do
  let place ←
    if place.scheme ≠ "" then
      if (← hostName place) = "" then
        (place.withHost (← hostName url)).mapError .badUrl
      else pure place
    else pure place
  if place.isAbsolute then return place
  else (url.join place.toText).mapError .badUrl

/-- The place that an answer to a request sends the caller on to. Its host and that of
the request are read, to be compared. -/
def redirectTarget (url : Url) (location : String) : Except Failure Url := do
  let place ← (Url.parse location).mapError .badRedirect
  let place ← placeBeside url place
  let (first, second) := if place.scheme = url.scheme then (place, url) else (url, place)
  let _ ← hostName first
  let _ ← hostName second
  return place

/-- What a response to a request comes to. -/
def accept (request : Request) (response : Response) : Except Failure Response :=
  let response := { response with request := some (request.method, request.url.toText) }
  if !request.url.isAbsolute then .error (.noRoute request.url.toText)
  else if response.redirects then
    (redirectTarget request.url ((response.headers.get? "Location").getD "")).map
      fun _ => response
  else .ok response

def exchange (request : Request) : Action Response := do
  modify (·.record (.sent request))
  match ← Action.nextReply with
  | none => throw (.raised "ConnectError" "no queued response")
  | some (.broken kind message) => throw (.raised kind message)
  | some (.response response) => Action.ofExcept id (accept request response)

end LakeAdmin.Http
