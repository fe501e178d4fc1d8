import LakeAdmin.Client.Token
import LakeAdmin.Model.Kind

/-!
The client of the service: where the service is and how it is addressed. Paths are
relative to the base URL, and every value in a path is percent encoded as a whole.
-/

namespace LakeAdmin

open Http LakeAdmin.Path

structure Client where
  baseUrl : String
  subscription : Option String
  apiVersion : String
  acceptLanguage : String
  userAgent : String
  tokens : Option TokenSource
  timeout : Binary64
  pollInterval : Binary64
  maxPolls : Int
  deriving DecidableEq, Repr

/-- What a caller says about a client; the settings fill in the rest. -/
structure ClientOptions where
  baseUrl : Option String := none
  subscription : Option String := none
  apiVersion : Option String := none
  acceptLanguage : Option String := none
  userAgent : Option String := none
  tokens : Option TokenSource := none
  timeout : Option Binary64 := none
  pollInterval : Option Binary64 := none
  maxPolls : Option Int := none

namespace Client

def orSetting (value : Option String) (setting : String) : String :=
  (value.filter (· ≠ "")).getD setting

/-- The client that options and settings make up. The base URL, the language and the
name of the user agent may not be empty. -/
def ofOptions (settings : Settings) (options : ClientOptions) : Client where
  baseUrl := Settings.endInSlash (orSetting options.baseUrl settings.baseUrl)
  subscription := options.subscription.or settings.subscription
  apiVersion := options.apiVersion.getD settings.apiVersion
  acceptLanguage := orSetting options.acceptLanguage settings.acceptLanguage
  userAgent := orSetting options.userAgent settings.userAgent
  tokens := options.tokens
  timeout := options.timeout.getD settings.timeout
  pollInterval := options.pollInterval.getD settings.pollInterval
  maxPolls := options.maxPolls.getD settings.maxPolls

/-- The source of tokens that settings with credentials give. -/
def settingsTokens (settings : Settings) : Option TokenSource :=
  if settings.hasCredentials then some (.service (.ofSettings settings)) else none

def ofSettings (settings : Settings) : Client :=
  ofOptions settings { tokens := settingsTokens settings }

/-! ## Paths -/

/-- Values for names of a path beyond those of an identity. -/
abbrev PathValues := List (String × Option String)

def pathProblems (names : List String) (identity : Option Identity)
    (query : Option QueryOptions) (extra : PathValues) : List Problem :=
  Identity.problems (names.filter fun name => !extra.any (·.1 == name)) identity ++
    query.elim [] QueryOptions.problems ++
    extra.flatMap fun (name, value) =>
      if value.all Text.allBlank then [.missing name] else []

/-- The value of a name of a path, encoded. -/
def pathValue (identity : Option Identity) (extra : PathValues) (name : String) : String :=
  let value := match extra.lookup name with
    | some value => value
    | none => identity.bind (·.lookUp name)
  Text.Percent.encode Text.Percent.isUnreserved (value.getD "None")

def buildPath (template : Template) (identity : Option Identity)
    (query : Option QueryOptions) (extra : PathValues) : Except Failure String :=
  let names := template.names
  match pathProblems names identity query extra with
  | [] =>
    let lookUp := fun name =>
      if names.contains name then some (pathValue identity extra name) else none
    match template.fill lookUp with
    | .ok path => .ok path
    | .error fault => .error (.badTemplate fault)
  | problems => .error (.invalidArgument problems)

/-- The URL that a URL or path denotes: an absolute reference itself, all else beside
the base URL, without the slashes in front of it. -/
def resolve (client : Client) (reference : String) : Except UrlFault String :=
  if Url.Reference.isAbsolute reference then .ok reference
  else do
    let base ← Url.parse client.baseUrl
    let url ← base.join (Text.dropLeading (· = '/') reference)
    return url.toText

/-- The host of a URL as it is written, if it is one. -/
def hostAt (address : String) : Except Failure String := do
  let url ← (Url.parse address).mapError .badUrl
  hostName url

/-- Whether a URL or path leads to the same host as the base URL, if both hosts can be
read. -/
def sharesHost (client : Client) (reference : String) : Except Failure Bool := do
  let address ← (client.resolve reference).mapError .badUrl
  let host ← hostAt address
  let own ← hostAt client.baseUrl
  return host == own

/-- Whether a URL or path points at the host of the base URL. What is no URL does not;
what cannot be joined to the base URL, and a host that is no name, have no answer. -/
def isOwnHost (client : Client) (reference : String) : Except Failure Bool :=
  match client.sharesHost reference with
  | .error (.badUrl (.reference fault)) => .error (.badUrl (.reference fault))
  | .error (.badUrl _) => .ok false
  | result => result

/-! ## Requests -/

/-- The header that carries a token, for the host of the base URL only. -/
def authorization (client : Client) (address : String) : Action Headers :=
  match client.tokens with
  | none => pure []
  | some source => do
    if ← Action.ofExcept id (client.isOwnHost address) then
      let token ← source.next
      return [("Authorization", "Bearer " ++ token.plain)]
    else
      Action.note (.withheld address)
      return []

/-- The headers of a request with an id, its own ones behind the usual ones. Headers of
the caller take the place of those of the same name. -/
def headersOf (client : Client) (id : String) (own extra : Headers) : Headers :=
  let usual := [("Accept", "application/json"), ("Accept-Language", client.acceptLanguage),
    ("User-Agent", client.userAgent), ("x-ms-client-request-id", id)]
  extra.foldl (fun headers (name, value) => Headers.set headers name value) (usual ++ own)

def headers (client : Client) (address : String) (extra : Headers) : Action Headers := do
  let id ← Action.freshId
  let own ← client.authorization address
  return client.headersOf id own extra

/-- Headers with the type of content of a body, unless they name one. -/
def withContentType (body : Body) (headers : Headers) : Headers :=
  match body.contentType?, headers.get? "Content-Type" with
  | some type, none => headers ++ [("Content-Type", type)]
  | _, _ => headers

/-- The body that goes with a value; null goes without one. -/
def bodyOf (value : Json) : Except Failure Body :=
  if value.isNull then .ok .none
  else if value.isFinite then .ok (.json value)
  else .error .notStandardJson

def draft (method address : String) (params : Option (List (String × String))) (json : Json)
    (headers : Headers) : Except Failure Request := do
  let url ← (requestUrl address params).mapError .badUrl
  let body ← bodyOf json
  return {
    method := method, url := url, body := body
    headers := (withContentType body headers).withCredentials url }

def request (client : Client) (method address : String)
    (params : Option (List (String × String))) (json : Json) (extra : Headers) :
    Action Response := do
  let headers ← client.headers address extra
  let request ← Action.ofExcept id (draft method address params json headers)
  let response ← exchange request
  Action.note (.answered method request.url.toText response.status)
  return response

/-- The texts of a parameter's value; a list stands for several values. -/
def paramTexts : Json → List String
  | .arr values => values.map paramText
  | value => [paramText value]
where
  /-- The text of one value. -/
  paramText : Json → String
    | .null => ""
    | .bool b => QueryOptions.truthText b
    | value => value.plain

def paramPairs (params : Members) : List (String × String) :=
  params.flatMap fun (name, value) => (paramTexts value).map (name, ·)

/-- Sends a request to a path beside the base URL. The version of the service is
always among the parameters. -/
def send (client : Client) (method path : String) (params : Members) (json : Json)
    (extra : Headers) : Action Response := do
  if client.apiVersion = "" then throw (.invalidArgument [.missing "api_version"])
  let params := params.insert "api-version" (.str client.apiVersion)
  let address ← Action.ofExcept Failure.badUrl (client.resolve path)
  client.request method address (some (paramPairs params)) json extra

/-- Reads on at a link that the service gave. The link alone determines the URL. -/
def fetchNext (client : Client) (token : String) : Action Response := do
  if token = "" then throw (.invalidArgument [.tokenEmpty])
  let address ← Action.ofExcept Failure.badUrl (client.resolve token)
  client.request "GET" address none .null []

/-- Reads on at a link as it was read. One that holds a surrogate is not sent. -/
def follow (client : Client) : Wide → Action Response
  | .plain link => client.fetchNext link
  | .ragged _ => throw .notUnicode

end Client

end LakeAdmin
