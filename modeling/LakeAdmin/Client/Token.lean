import LakeAdmin.Http.Exchange
import LakeAdmin.Settings.Basic

/-!
Access tokens. A token is asked for with the credentials of the settings and kept for
each scope until a minute before it expires. What goes wrong while a token is fetched
leaves the kept tokens as they were.
-/

namespace LakeAdmin

namespace Token

open Http

/-- What a token is asked for with. -/
structure Credentials where
  tenant : Option String
  clientId : Option String
  clientSecret : Option String
  deriving DecidableEq, Repr

def Credentials.ofSettings (settings : Settings) : Credentials :=
  ⟨settings.tenant, settings.clientId, settings.clientSecret⟩

def serviceScope : String := "https://management.azure.com/.default"

/-- How long before it expires a token is no longer used, in seconds. -/
def slack : Binary64 := 60

/-- How long a token lives if the answer does not say, in seconds. -/
def usualLifetime : Document := .int 3600

/-- Whether a kept token can still be used. -/
def isFresh (now : Binary64) (held : HeldToken) : Bool :=
  Binary64.lt now (held.expiresAt - slack)

def held? (world : World) (scope : String) : Option HeldToken :=
  world.tokens.find? (·.scope == scope)

/-- Keeps a token: in the place of the one for its scope, or behind all others. -/
def keep (held : HeldToken) : List HeldToken → List HeldToken
  | [] => [held]
  | other :: rest =>
    if other.scope == held.scope then held :: rest else other :: keep held rest

/-- Where a token is asked for. -/
def address (credentials : Credentials) : String :=
  "https://login.microsoftonline.com/" ++ orNone credentials.tenant ++ "/oauth2/v2.0/token"

/-- What is sent to ask for a token. -/
def form (credentials : Credentials) (scope : String) : List (String × String) := [
  ("client_id", credentials.clientId.getD ""),
  ("client_secret", credentials.clientSecret.getD ""),
  ("grant_type", "client_credentials"),
  ("scope", scope)]

/-- The lifetime of a token as a whole number of seconds. -/
def lifetime : Document → Except TokenFault Int
  | .int n => .ok n
  | .bool b => .ok (if b then 1 else 0)
  | .float .nan => .error .lifetimeUndefined
  | .float x =>
    match x.truncate? with
    | some n => .ok n
    | none => .error .lifetimeInfinite
  | .str (.ragged text) => .error (.lifetimeUnreadable (.ragged text))
  | .str (.plain s) =>
    match Literal.lenientDigits? s with
    | none => .error (.lifetimeUnreadable s)
    | some (_, digits) =>
      match Literal.lenientInt? s with
      | some n => .ok n
      | none => .error (.lifetimeTooLong digits.length)
  | _ => .error .lifetimeNotNumber

/-- The time at which a token of a lifetime expires that was asked for at `now`. -/
def expiry (now : Binary64) (seconds : Int) : Except TokenFault Binary64 :=
  let lifetime := Binary64.ofInt seconds
  if lifetime.isFinite then .ok (now + lifetime) else .error .lifetimeTooLarge

def ofAnswer (url : String) (response : Response) : Except TokenFault (Document × Int) :=
  if response.status < 200 ∨ 300 ≤ response.status then
    .error (.refused response.status url
      (if response.redirects then response.headers.get? "Location" else none))
  else
    match Json.ofBytes response.levels response.body with
    | .error e => .error (.unreadable e)
    | .ok (.obj members) =>
      match Members.get? members "access_token" with
      | none => .error (.missing "access_token")
      | some token => do
        let seconds ← lifetime ((Members.get? members "expires_in").getD usualLifetime)
        return (token, seconds)
    | .ok _ => .error .notObject

def fetch (credentials : Credentials) (scope : String) (now : Binary64) : Action Document := do
  let pairs := form credentials scope
  let url ← Action.ofExcept Failure.badUrl (requestUrl (address credentials) none)
  let response ← exchange {
    method := "POST", url := url, body := .form pairs
    headers := [("Content-Type", "application/x-www-form-urlencoded")] }
  let (token, seconds) ← Action.ofExcept Failure.token (ofAnswer url.toText response)
  let expiresAt ← Action.ofExcept Failure.token (expiry now seconds)
  modify fun world => { world with tokens := keep ⟨scope, token, expiresAt⟩ world.tokens }
  return token

/-- The token for a scope: the one that is kept, or else a new one. -/
def obtain (credentials : Credentials) (scope : String) : Action Document := do
  let world ← get
  match held? world scope with
  | some held =>
    if isFresh world.clock held then return held.token
    else fetch credentials scope world.clock
  | none => fetch credentials scope world.clock

end Token

inductive TokenSource where
  | fixed (token : String)
  | service (credentials : Token.Credentials)
  deriving DecidableEq, Repr

def TokenSource.next : TokenSource → Http.Action Document
  | fixed token => pure (.str token)
  | service credentials => Token.obtain credentials Token.serviceScope

end LakeAdmin
