import LakeAdmin.Schema.Scalar
import LakeAdmin.Settings.Dotenv
import LakeAdmin.Text.LowerCase

/-!
The settings of the program. Each comes from the caller, from the environment, from a
file, or from its default, in this order. In the environment and the file the names
are in capitals of any case; a caller may also use the name of the field.
-/

namespace LakeAdmin

open Schema

structure Settings where
  hubPort : Int
  baseUrl : String
  subscription : Option String
  apiVersion : String
  acceptLanguage : String
  userAgent : String
  tenant : Option String
  clientId : Option String
  clientSecret : Option String
  timeout : Binary64
  pollInterval : Binary64
  maxPolls : Int
  deriving DecidableEq, Repr

namespace Settings

/-- The settings where nothing is said. -/
def standard : Settings where
  hubPort := 8080
  baseUrl := "https://management.azure.com/"
  subscription := none
  apiVersion := "2016-11-01"
  acceptLanguage := "en-US"
  userAgent := "datalake-hub/0.1.0"
  tenant := none
  clientId := none
  clientSecret := none
  timeout := 60
  pollInterval := 5
  maxPolls := 120

/-- Whether a text is there and not empty. -/
def isFilled (value : Option String) : Bool := value.any (· ≠ "")

def hasCredentials (settings : Settings) : Bool :=
  isFilled settings.tenant && isFilled settings.clientId && isFilled settings.clientSecret

def endInSlash (url : String) : String := Text.dropTrailing (· = '/') url ++ "/"

/-- What every base URL starts with. -/
def secureScheme : String := "https://"

def baseUrlCheck : Check String := fun value =>
  (Check.keeping .secureBaseUrl (secureScheme.toList.isPrefixOf ·.toList) Check.text value).map
    endInSlash

def secondsCheck : Check Binary64 :=
  Check.keeping .notNegative (fun x => !Binary64.lt x 0) Check.number

structure Sources where
  given : Members
  environment : List (String × String)
  file : List Dotenv.Binding

/-- The last value of a name in any case. -/
def lastOf (pairs : List (String × α)) (name : String) : Option α :=
  (pairs.reverse.find? fun pair => Text.lower pair.1 == name).map (·.2)

/-- The value of a field and the name it stands under: that of the caller, in
capitals or as the field is called, then that of the environment, then that of the
file. -/
def Sources.find? (sources : Sources) (field : String) : Option (String × Json) :=
  let capitals := field.toUpper
  match sources.given.get? capitals, sources.given.get? field with
  | some value, _ => some (capitals, value)
  | none, some value => some (field, value)
  | none, none =>
    match lastOf sources.environment field, (lastOf sources.file field).join with
    | some value, _ => some (capitals, .str value)
    | none, some value => some (capitals, .str value)
    | none, none => none

def Sources.read (sources : Sources) (field : String) (default : α) (check : Check α) :
    Checked α :=
  match sources.find? field with
  | some (name, value) => (check value).under name
  | none => .valid default

def ofSources (sources : Sources) : Checked Settings :=
  let text := Check.nullable Check.text
  Settings.mk <$> sources.read "hub_port" standard.hubPort Check.integer
    <*> sources.read "arm_base_url" standard.baseUrl baseUrlCheck
    <*> sources.read "arm_subscription_id" standard.subscription text
    <*> sources.read "arm_api_version" standard.apiVersion Check.text
    <*> sources.read "arm_accept_language" standard.acceptLanguage Check.text
    <*> sources.read "arm_user_agent" standard.userAgent Check.text
    <*> sources.read "arm_tenant_id" standard.tenant text
    <*> sources.read "arm_client_id" standard.clientId text
    <*> sources.read "arm_client_secret" standard.clientSecret text
    <*> sources.read "http_timeout" standard.timeout secondsCheck
    <*> sources.read "lro_poll_interval" standard.pollInterval secondsCheck
    <*> sources.read "lro_max_polls" standard.maxPolls Check.integer

/-- The settings that a caller, the environment and the text of a file make up. -/
def load (given : Members) (environment : List (String × String)) (file : String) :
    Checked Settings :=
  ofSources ⟨given, environment, Dotenv.read environment file⟩

/-- What is printed when the program cannot start for want of valid settings. -/
def startFailure : String :=
  "\n[settings] Invalid settings. Check .env (repo root), for example:\n" ++
    "  ARM_BASE_URL=https://management.azure.com\n" ++
    "  ARM_SUBSCRIPTION_ID=<GUID>\n" ++
    "  ARM_API_VERSION=2016-11-01\n" ++
    "Optional:\n" ++
    "  ARM_TENANT_ID, ARM_CLIENT_ID, ARM_CLIENT_SECRET\n" ++
    "  HTTP_TIMEOUT=60, LRO_POLL_INTERVAL=5, LRO_MAX_POLLS=120\n" ++
    "  HUB_PORT=8080\n\n"

end Settings

end LakeAdmin
