import LakeAdmin.Numeric.Literal
import LakeAdmin.Text.Quoted
import LakeAdmin.Url.Host

/-!
URLs in their parts, read from text and written back. Reading normalises: scheme and
host in lower case, the usual port of a scheme left out, dot segments removed from
the path, and whatever a part may not hold percent encoded.
-/

namespace LakeAdmin

open Text

/-- A normalised URL. An IPv6 host is held without its brackets. -/
structure Url where
  scheme : String
  userInfo : String
  host : String
  port : Option Int
  path : String
  query : Option String
  fragment : Option String
  deriving DecidableEq, Repr, Inhabited

/-- Why a text is not a reference: its brackets do not come together, they do not
enclose an address, or a character of its authority stands for a delimiter. -/
inductive ReferenceFault where
  | brackets
  | futureAddress
  | ipv4InBrackets
  | address (text : String)
  | disguised (authority : String)
  deriving DecidableEq, Repr

def ReferenceFault.message : ReferenceFault → String
  | brackets => "Invalid IPv6 URL"
  | futureAddress => "IPvFuture address is invalid"
  | ipv4InBrackets => "An IPv4 address cannot be in brackets"
  | address text => Quoted.encode text ++ " does not appear to be an IPv4 or IPv6 address"
  | disguised authority =>
    "netloc '" ++ authority ++ "' contains invalid characters under NFKC normalization"

inductive UrlFault where
  | tooLong
  | partTooLong (part : String)
  | unprintable (c : Char) (position : Nat)
  | ipv4 (host : String)
  | ipv6 (host : String)
  | hostName (host : String)
  | port (text : String)
  | pathWithoutSlash
  | pathOfTwoSlashes
  | pathOfColon
  | reference (fault : ReferenceFault)
  deriving DecidableEq, Repr

def UrlFault.message : UrlFault → String
  | tooLong => "URL too long"
  | partTooLong part => "URL component '" ++ part ++ "' too long"
  | unprintable c position =>
    "Invalid non-printable ASCII character in URL, " ++ Quoted.encode (String.singleton c) ++
      " at position " ++ toString position ++ "."
  | ipv4 host => "Invalid IPv4 address: " ++ Quoted.encode host
  | ipv6 host => "Invalid IPv6 address: " ++ Quoted.encode host
  | hostName host => "Invalid IDNA hostname: " ++ Quoted.encode host
  | port text => "Invalid port: " ++ Quoted.encode text
  | pathWithoutSlash => "For absolute URLs, path must be empty or begin with '/'"
  | pathOfTwoSlashes => "Relative URLs cannot have a path starting with '//'"
  | pathOfColon => "Relative URLs cannot have a path starting with ':'"
  | reference fault => fault.message

namespace Url

/-! ## The characters of each part -/

/-- A visible ASCII character or a space. -/
def isVisible (c : Char) : Bool := 0x20 ≤ c.toNat && c.toNat < 0x7F

/-- Characters that stay as they are in a query. -/
def isQueryChar (c : Char) : Bool :=
  isVisible c && !" \"#<>".toList.contains c

def isPathChar (c : Char) : Bool :=
  isQueryChar c && !"?`\x7b\x7d".toList.contains c

def isFragmentChar (c : Char) : Bool :=
  isVisible c && !" \"<>`".toList.contains c

def isUserChar (c : Char) : Bool :=
  isPathChar c && !"/;=@[\\]^|".toList.contains c

def isSchemeChar (c : Char) : Bool :=
  c.isAlphanum || c == '+' || c == '-' || c == '.'

/-! ## Cutting a text into parts -/

def cutScheme? (l : List Char) : Option (List Char × List Char) :=
  match cutFirst ':' l with
  | (first :: others, some after) =>
    if first.isAlpha && others.all isSchemeChar then some (first :: others, after) else none
  | _ => none

/-- Takes a scheme and its colon off the front. A colon alone is an empty scheme. -/
def cutScheme : List Char → List Char × List Char
  | ':' :: rest => ([], rest)
  | l => (cutScheme? l).getD ([], l)

def endsAuthority (c : Char) : Bool := c == '/' || c == '?' || c == '#'

/-- Takes `//` and an authority off the front. -/
def cutAuthority : List Char → Option (List Char) × List Char
  | '/' :: '/' :: rest =>
    (some (rest.takeWhile (!endsAuthority ·)), rest.dropWhile (!endsAuthority ·))
  | l => (none, l)

/-- The text of a URL in its parts, none of them changed. -/
structure Parts where
  scheme : List Char
  authority : List Char
  path : List Char
  query : Option (List Char)
  fragment : Option (List Char)
  deriving DecidableEq, Repr

/-- Cuts a text into parts. -/
def cut (l : List Char) : Parts :=
  let (scheme, afterScheme) := cutScheme l
  let (authority, afterAuthority) := cutAuthority afterScheme
  let (beforeFragment, fragment) := cutFirst '#' afterAuthority
  let (path, query) := cutFirst '?' beforeFragment
  ⟨scheme, authority.getD [], path, query, fragment⟩

/-- Cuts an authority into user information, host and the text of the port. The
user information reaches to the last `@`; a host in brackets reaches to the last
closing bracket. -/
def cutHost (authority : List Char) : List Char × List Char × List Char :=
  let (user, place) := (cutLast? '@' authority).getD ([], authority)
  let (host, rest) :=
    match place.head?, cutLast? ']' place with
    | some '[', some (inside, after) => (inside ++ [']'], after)
    | _, _ =>
      (place.takeWhile fun c => c ≠ ':' && c ≠ '@', place.dropWhile fun c => c ≠ ':' && c ≠ '@')
  (user, host, if rest.head? = some ':' then rest.drop 1 else rest)

/-! ## Normal forms of the parts -/

/-- The path without its dot segments. A double dot takes the segment before it
away unless only the root is left. -/
def removeDots (path : List Char) : List Char :=
  joinWith '/' <| (splitAt '/' path).foldl (fun kept segment =>
    if segment = ['.'] then kept
    else if segment = ['.', '.'] then (if kept = [[]] then kept else kept.dropLast)
    else kept ++ [segment]) []

/-- The port that a scheme has without saying so. -/
def usualPort (scheme : List Char) : Option Int :=
  match String.ofList scheme with
  | "ftp" => some 21
  | "http" => some 80
  | "https" => some 443
  | "ws" => some 80
  | "wss" => some 443
  | _ => none

/-- The port that a text gives; the usual one counts as none. -/
def readPort (scheme text : List Char) : Except UrlFault (Option Int) :=
  if text.isEmpty then .ok none
  else
    match Literal.lenientInt? (String.ofList text) with
    | none => .error (.port (String.ofList text))
    | some n => .ok (if usualPort scheme = some n then none else some n)

/-- The normal form of a host. -/
def readHost (host : List Char) : Except UrlFault String :=
  match encodeHost host with
  | .ok name => .ok name
  | .error .ipv4 => .error (.ipv4 (String.ofList host))
  | .error .ipv6 => .error (.ipv6 (String.ofList host))
  | .error .name => .error (.hostName (String.ofList host))

def checkPath (hasScheme hasAuthority : Bool) (path : List Char) : Except UrlFault Unit :=
  if hasAuthority then
    if path.isEmpty || path.head? == some '/' then .ok () else .error .pathWithoutSlash
  else if hasScheme then .ok ()
  else if ['/', '/'].isPrefixOf path then .error .pathOfTwoSlashes
  else if path.head? = some ':' then .error .pathOfColon
  else .ok ()

def ofParts (parts : Parts) : Except UrlFault Url := do
  let (user, host, portText) := cutHost parts.authority
  let host ← readHost host
  let port ← readPort parts.scheme portText
  let hasScheme := !parts.scheme.isEmpty
  let hasAuthority := !user.isEmpty || host ≠ "" || port.isSome
  checkPath hasScheme hasAuthority parts.path
  let path := if hasScheme || hasAuthority then removeDots parts.path else parts.path
  return {
    scheme := lowerAscii (String.ofList parts.scheme)
    userInfo := Percent.encode isUserChar (String.ofList user)
    host := host
    port := port
    path := Percent.encode isPathChar (String.ofList path)
    query := parts.query.map fun q => Percent.encode isQueryChar (String.ofList q)
    fragment := parts.fragment.map fun f => Percent.encode isFragmentChar (String.ofList f) }

/-! ## Reading and writing -/

/-- The number of characters that a URL, or a part of one, may have. -/
def lengthLimit : Nat := 65536

/-- The first ASCII character without a visible form, with its place. -/
def unprintable? (l : List Char) : Option (Char × Nat) :=
  (l.zipIdx).find? fun (c, _) => c.toNat < 0x80 && !isVisible c

def parse (s : String) : Except UrlFault Url :=
  if lengthLimit < s.length then .error .tooLong
  else
    match unprintable? s.toList with
    | some (c, position) => .error (.unprintable c position)
    | none => ofParts (cut s.toList)

/-- Host and port as they stand in the text. -/
def authority (url : Url) : String :=
  (if url.userInfo = "" then "" else url.userInfo ++ "@") ++
    (if url.host.toList.contains ':' then "[" ++ url.host ++ "]" else url.host) ++
    (match url.port with
      | some n => ":" ++ toString n
      | none => "")

def toText (url : Url) : String :=
  (if url.scheme = "" then "" else url.scheme ++ ":") ++
    (if url.authority = "" then "" else "//" ++ url.authority) ++
    url.path ++
    (match url.query with
      | some query => "?" ++ query
      | none => "") ++
    (match url.fragment with
      | some fragment => "#" ++ fragment
      | none => "")

/-- The name and the password that the user information gives, if one of them is there. -/
def credentials? (url : Url) : Option (String × String) :=
  let (name, password) := cutFirst ':' url.userInfo.toList
  let name := Percent.decode (String.ofList name)
  let password := Percent.decode (String.ofList (password.getD []))
  if name = "" ∧ password = "" then none else some (name, password)

/-- Whether a URL names a scheme and a host. -/
def isAbsolute (url : Url) : Bool := url.scheme ≠ "" && url.host ≠ ""

/-- The parts of a text that may be too long, in order, with their names. -/
def sized (url : Url) : List (String × String) := [
  ("scheme", url.scheme), ("authority", url.authority), ("path", url.path),
  ("query", url.query.getD ""), ("fragment", url.fragment.getD "")]

/-- A URL none of whose parts is too long. -/
def checkLengths (url : Url) : Except UrlFault Url :=
  match url.sized.find? fun (_, text) => lengthLimit < text.length with
  | some (part, _) => .error (.partTooLong part)
  | none => .ok url

def withQuery (url : Url) (query : String) : Except UrlFault Url :=
  checkLengths { url with query := some query }

/-- The host as it is read: a name that starts with a coded label is decoded. -/
def hostName (url : Url) : Except HostName.NameFault String :=
  if HostName.codeMark.isPrefixOf url.host.toList then HostName.decode url.host
  else .ok url.host

/-- The URL with a host, given as it is read, where it had none. A path beside a host
has to begin at the root. -/
def withHost (url : Url) (host : String) : Except UrlFault Url := do
  let host ← readHost (if host.toList.contains ':' then ("[" ++ host ++ "]").toList else host.toList)
  checkPath (url.scheme ≠ "") (host ≠ "") url.path.toList
  checkLengths { url with host := host }

/-- The path and query as a request line holds them; a missing path is the root. -/
def target (url : Url) : String :=
  (if url.path = "" then "/" else url.path) ++
    (match url.query with
      | some query => "?" ++ query
      | none => "")

/-- A URL of nothing but the path and query of another, from the root. -/
def onlyTarget (url : Url) : Except UrlFault Url :=
  let (path, query) := cutFirst '?' (url.target.toList.dropWhile (· = '/'))
  checkLengths {
    scheme := "", userInfo := "", host := "", port := none
    path := String.ofList ('/' :: path), query := query.map String.ofList, fragment := none }

end Url

end LakeAdmin
