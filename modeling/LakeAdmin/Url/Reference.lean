import LakeAdmin.Url.Basic

/-!
References and how they are resolved against a base. A reference is cut into its
parts leniently: blanks in front of it and line ends anywhere in it are dropped. It
is absolute if it names both a scheme and an authority. Merging follows the segments of
both paths, and drops empty ones inside the merged path.
-/

namespace LakeAdmin.Url

open Text

/-- The parts of a reference; what is absent is empty. -/
structure Reference where
  scheme : String
  authority : List Char
  path : List Char
  params : List Char
  query : List Char
  fragment : List Char
  deriving DecidableEq, Repr

namespace Reference

/-- Schemes whose references may be relative to a base. -/
def relativeSchemes : List String := [
  "", "ftp", "http", "gopher", "nntp", "imap", "wais", "file", "https", "shttp", "mms",
  "prospero", "rtsp", "rtsps", "rtspu", "sftp", "svn", "svn+ssh", "ws", "wss"]

/-- Schemes whose URLs have an authority. -/
def authoritySchemes : List String := [
  "", "ftp", "http", "gopher", "nntp", "telnet", "imap", "wais", "file", "mms", "https",
  "shttp", "snews", "prospero", "rtsp", "rtsps", "rtspu", "rsync", "svn", "svn+ssh", "sftp",
  "nfs", "git", "git+ssh", "ws", "wss"]

/-- Schemes whose last path segment may carry parameters behind a semicolon. -/
def paramsSchemes : List String := [
  "", "ftp", "hdl", "prospero", "http", "imap", "https", "shttp", "rtsp", "rtsps", "rtspu",
  "sip", "sips", "mms", "sftp", "tel"]

/-- A text without what a reference may not start with or hold. -/
def clean (l : List Char) : List Char :=
  (l.dropWhile (·.toNat ≤ 0x20)).filter fun c => c ≠ '\t' && c ≠ '\n' && c ≠ '\r'

def cutParams (path : List Char) : List Char × List Char :=
  match cutLast? '/' path with
  | some (front, last) =>
    let (segment, params) := cutFirst ';' last
    (front ++ '/' :: segment, params.getD [])
  | none =>
    let (segment, params) := cutFirst ';' path
    (segment, params.getD [])

/-- Characters that would turn into a delimiter of URLs when a name is brought into
its compatibility form. -/
def isDisguised (c : Char) : Bool :=
  [0x2047, 0x2048, 0x2049, 0x2100, 0x2101, 0x2105, 0x2106, 0x2A74, 0xFE13, 0xFE16, 0xFE55,
    0xFE56, 0xFE5F, 0xFE6B, 0xFF03, 0xFF0F, 0xFF1A, 0xFF1F, 0xFF20].contains c.toNat

/-- Whether a text is an address of a version to come: `v`, a version in hexadecimal
digits, a point and something more. -/
def isFutureAddress (l : List Char) : Bool :=
  match l with
  | 'v' :: rest =>
    match cutFirst '.' rest with
    | (version, some address) =>
      !version.isEmpty && !address.isEmpty && version.all fun c => (hexDigit? c).isSome
    | _ => false
  | _ => false

/-- Refuses what stands in brackets and is no address. -/
def checkBracketed (l : List Char) : Except ReferenceFault Unit :=
  if l.head? = some 'v' then
    if isFutureAddress l then .ok () else .error .futureAddress
  else if (Ipv4.ofText? (String.ofList l)).isSome then .error .ipv4InBrackets
  else if Ipv6.isAddress l then .ok ()
  else .error (.address (String.ofList l))

/-- Refuses an authority whose brackets do not come together or do not enclose an
address, and one with a disguised delimiter. -/
def checkAuthority (authority : List Char) : Except ReferenceFault Unit := do
  match cutFirst '[' authority with
  | (_, none) => if authority.contains ']' then throw .brackets
  | (_, some inside) =>
    if !authority.contains ']' then throw .brackets
    checkBracketed (cutFirst ']' inside).1
  if authority.any isDisguised then throw (.disguised (String.ofList authority))

/-- Cuts a text into the parts of a reference, which has the scheme `usual` if it
names none. -/
def split (usual : String) (s : String) : Except ReferenceFault Reference := do
  let l := clean s.toList
  let (scheme, afterScheme) :=
    match cutScheme? l with
    | some (scheme, rest) => (lowerAscii (String.ofList scheme), rest)
    | none => (usual, l)
  let (authority, afterAuthority) := cutAuthority afterScheme
  checkAuthority (authority.getD [])
  let (beforeFragment, fragment) := cutFirst '#' afterAuthority
  let (path, query) := cutFirst '?' beforeFragment
  let (path, params) :=
    if paramsSchemes.contains scheme then cutParams path else (path, [])
  return ⟨scheme, authority.getD [], path, params, query.getD [], fragment.getD []⟩

def isAbsolute (s : String) : Bool :=
  match split "" s with
  | .ok r => r.scheme ≠ "" && !r.authority.isEmpty
  | .error _ => false

def toText (r : Reference) : String :=
  let path := if r.params.isEmpty then r.path else r.path ++ ';' :: r.params
  let place :=
    if !r.authority.isEmpty || (r.scheme ≠ "" && authoritySchemes.contains r.scheme) ||
        ['/', '/'].isPrefixOf path then
      let path := if path.isEmpty || path.head? = some '/' then path else '/' :: path
      '/' :: '/' :: r.authority ++ path
    else path
  (if r.scheme = "" then "" else r.scheme ++ ":") ++ String.ofList place ++
    (if r.query.isEmpty then "" else "?" ++ String.ofList r.query) ++
    (if r.fragment.isEmpty then "" else "#" ++ String.ofList r.fragment)

/-- The segments of a path relative to a base path, before dots are removed. -/
def mergeSegments (base path : List Char) : List (List Char) :=
  if path.head? = some '/' then splitAt '/' path
  else
    let parts := splitAt '/' base
    let folder := if parts.getLast? = some [] then parts else parts.dropLast
    let all := folder ++ splitAt '/' path
    match all with
    | [] => []
    | [only] => [only]
    | first :: rest => first :: (rest.dropLast.filter (!·.isEmpty)) ++ [rest.getLastD []]

/-- Segments without those that are dots. A path that ends in dots ends in a slash. -/
def removeDots (segments : List (List Char)) : List (List Char) :=
  let isDots := fun s : List Char => s = ['.'] ∨ s = ['.', '.']
  let kept := segments.foldl (fun kept s =>
    if s = ['.'] then kept
    else if s = ['.', '.'] then kept.dropLast
    else kept ++ [s]) []
  if isDots (segments.getLastD []) then kept ++ [[]] else kept

/-- A path relative to a base path. -/
def mergePath (base path : List Char) : List Char :=
  let merged := joinWith '/' (removeDots (mergeSegments base path))
  if merged.isEmpty then ['/'] else merged

/-- The text of a reference relative to a base, both in their parts. -/
def place (b r : Reference) (reference : String) : String :=
  if r.scheme ≠ b.scheme ∨ !relativeSchemes.contains r.scheme then reference
  else
    let hasAuthority := authoritySchemes.contains r.scheme
    if hasAuthority && !r.authority.isEmpty then r.toText
    else
      let r := if hasAuthority then { r with authority := b.authority } else r
      if r.path.isEmpty && r.params.isEmpty then
        toText { r with
          path := b.path
          params := b.params
          query := if r.query.isEmpty then b.query else r.query }
      else toText { r with path := mergePath b.path r.path }

def merge (base reference : String) : Except ReferenceFault String :=
  if base = "" then .ok reference
  else if reference = "" then .ok base
  else do
    let b ← split "" base
    let r ← split b.scheme reference
    return place b r reference

end Reference

def join (base : Url) (reference : String) : Except UrlFault Url := do
  let r ← parse reference
  let merged ← (Reference.merge base.toText r.toText).mapError .reference
  parse merged

end LakeAdmin.Url
