import LakeAdmin.Json.Writer
import LakeAdmin.Text.Blank
import LakeAdmin.Text.Codec
import LakeAdmin.Text.Form
import LakeAdmin.Text.LowerCase
import LakeAdmin.Url.Basic

/-!
Requests and responses. The names of headers are compared without regard to case,
and the values of a repeated header are read as one, joined by commas. What the library
of codecs and the room on the stack make of a response goes with it.
-/

namespace LakeAdmin.Http

open Text

abbrev Headers := List (String × String)

/-! ## Base64 -/

namespace Base64

def sign (n : Nat) : Char :=
  if n < 26 then Char.ofNat ('A'.toNat + n)
  else if n < 52 then Char.ofNat ('a'.toNat + (n - 26))
  else if n < 62 then Char.ofNat ('0'.toNat + (n - 52))
  else if n = 62 then '+'
  else '/'

def encode : List UInt8 → List Char
  | [] => []
  | [a] => [sign (a.toNat / 4), sign (a.toNat % 4 * 16), '=', '=']
  | [a, b] => [sign (a.toNat / 4), sign (a.toNat % 4 * 16 + b.toNat / 16),
      sign (b.toNat % 16 * 4), '=']
  | a :: b :: c :: rest =>
    [sign (a.toNat / 4), sign (a.toNat % 4 * 16 + b.toNat / 16),
      sign (b.toNat % 16 * 4 + c.toNat / 64), sign (c.toNat % 64)] ++ encode rest

end Base64

/-! ## Headers -/

namespace Headers

def values (headers : Headers) (name : String) : List String :=
  (headers.filter fun header => lowerAscii header.1 == lowerAscii name).map (·.2)

def get? (headers : Headers) (name : String) : Option String :=
  match headers.values name with
  | [] => none
  | found => some (", ".intercalate found)

/-- The value of a header if it is there and not empty. -/
def filled? (headers : Headers) (name : String) : Option String :=
  (headers.get? name).filter (· ≠ "")

/-- Sets a header: at the place of one with exactly this name, at the end if there
is none. -/
def set (headers : Headers) (name value : String) : Headers :=
  if headers.any (·.1 == name) then
    headers.map fun header => if header.1 == name then (name, value) else header
  else headers ++ [(name, value)]

/-- Headers with one value for a name, in whatever case it stood there. -/
def replace (headers : Headers) (name value : String) : Headers :=
  headers.filter (fun header => lowerAscii header.1 != lowerAscii name) ++ [(name, value)]

/-- Headers with the credentials that a URL names, which take the place of others. -/
def withCredentials (url : Url) (headers : Headers) : Headers :=
  match url.credentials? with
  | some (name, password) =>
    headers.replace "Authorization"
      ("Basic " ++ String.ofList (Base64.encode (Utf8.encode (name ++ ":" ++ password))))
  | none => headers

end Headers

inductive Body where
  | none
  | json (value : Json)
  | form (pairs : List (String × String))

namespace Body

/-- The text that is sent. -/
def text : Body → String
  | none => ""
  | json value => value.render
  | form pairs => Form.encode pairs

def contentType? : Body → Option String
  | none => Option.none
  | json _ => some "application/json"
  | form _ => some "application/x-www-form-urlencoded"

end Body

structure Request where
  method : String
  url : Url
  headers : Headers
  body : Body

/-- A response. The request it answers is unknown if it was made by hand. Its text is read
by the codec that its type of content names, if it names one that there is, and its
document if no more than `levels` arrays and objects are open in it at once: so many
there is room for where it is read. -/
structure Response where
  status : Int
  headers : Headers
  body : List UInt8
  request : Option (String × String)
  codec : Option Codec
  levels : Nat
  deriving Inhabited

namespace Response

/-- The body as text: in UTF-8 if no codec is named, and with U+FFFD for what is not
well-formed. An empty body is read by none. -/
def text (response : Response) : Except CodecFault Wide :=
  match response.codec with
  | some decode => if response.body.isEmpty then .ok "" else decode response.body
  | none => .ok (.plain (String.ofList (Utf8.replace response.body)))

/-- Whether the body holds nothing but ASCII blanks. -/
def isBlank (response : Response) : Bool := response.body.all isBlankByte

def redirects (response : Response) : Bool :=
  [301, 302, 303, 307, 308].contains response.status &&
    (response.headers.get? "Location").isSome

end Response

end LakeAdmin.Http
