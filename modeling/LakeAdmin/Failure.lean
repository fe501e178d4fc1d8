import LakeAdmin.Json.Display
import LakeAdmin.Json.Document
import LakeAdmin.Json.Equal
import LakeAdmin.Path.Template
import LakeAdmin.Problem
import LakeAdmin.Text.Codec
import LakeAdmin.Url.Basic

/-!
How a call can fail: its arguments are wrong, the service answers with an error, an
answer cannot be decoded, or the way to the service breaks. Texts that cannot be encoded
and documents that are nested too deep end a call as well, on whichever side they are
met. Each way has its cause and one message.
-/

namespace LakeAdmin

/-- An answer outside the statuses that mean success. The body is the decoded JSON
document, or the text if there is none. The request is known unless the answer was
made by hand. -/
structure Fault where
  status : Int
  body : Document
  method : Option String
  url : Option String
  deriving Inhabited

namespace Fault

/-- The request that was answered, if both parts of it are known. -/
def origin (fault : Fault) : String :=
  match fault.method, fault.url with
  | some method, some url =>
    if method = "" ∨ url = "" then "" else " (" ++ method ++ " " ++ url ++ ")"
  | _, _ => ""

def message (fault : Fault) : String :=
  toString fault.status ++ fault.origin ++ ": " ++ fault.body.display

/-- Whether two faults have one status and bodies that denote the same. -/
def same (a b : Fault) : Bool := a.status == b.status && a.body.same b.body

/-- What a fault is filed under in a table. -/
def key (fault : Fault) : Int × String := (fault.status, fault.body.display)

end Fault

inductive Undecodable where
  | json (error : Json.Unreadable)
  | page (issues : Nat)
  | model (name : String)
  | stated (reason : String)
  deriving DecidableEq, Repr

def Undecodable.message : Undecodable → String
  | json error => "invalid JSON: " ++ error.message
  | page issues => "not a page: " ++ toString issues ++ " error(s)"
  | model name => "not a " ++ name
  | stated reason => reason

/-- Why an answer of the token service gives no token. -/
inductive TokenFault where
  | refused (status : Int) (url : String) (location : Option String)
  | unreadable (error : Json.ReadFault)
  | notObject
  | missing (name : String)
  | lifetimeNotNumber
  | lifetimeUndefined
  | lifetimeInfinite
  | lifetimeUnreadable (text : Wide)
  | lifetimeTooLong (digits : Nat)
  | lifetimeTooLarge
  deriving DecidableEq, Repr

def statusPhrases : List (Int × String) := [
  (100, "Continue"), (101, "Switching Protocols"), (102, "Processing"), (103, "Early Hints"),
  (200, "OK"), (201, "Created"), (202, "Accepted"), (203, "Non-Authoritative Information"),
  (204, "No Content"), (205, "Reset Content"), (206, "Partial Content"), (207, "Multi-Status"),
  (208, "Already Reported"), (226, "IM Used"), (300, "Multiple Choices"),
  (301, "Moved Permanently"), (302, "Found"), (303, "See Other"), (304, "Not Modified"),
  (305, "Use Proxy"), (307, "Temporary Redirect"), (308, "Permanent Redirect"),
  (400, "Bad Request"), (401, "Unauthorized"), (402, "Payment Required"), (403, "Forbidden"),
  (404, "Not Found"), (405, "Method Not Allowed"), (406, "Not Acceptable"),
  (407, "Proxy Authentication Required"), (408, "Request Timeout"), (409, "Conflict"),
  (410, "Gone"), (411, "Length Required"), (412, "Precondition Failed"),
  (413, "Request Entity Too Large"), (414, "Request-URI Too Long"),
  (415, "Unsupported Media Type"), (416, "Requested Range Not Satisfiable"),
  (417, "Expectation Failed"), (418, "I'm a teapot"), (421, "Misdirected Request"),
  (422, "Unprocessable Entity"), (423, "Locked"), (424, "Failed Dependency"),
  (425, "Too Early"), (426, "Upgrade Required"), (428, "Precondition Required"),
  (429, "Too Many Requests"), (431, "Request Header Fields Too Large"),
  (451, "Unavailable For Legal Reasons"), (500, "Internal Server Error"),
  (501, "Not Implemented"), (502, "Bad Gateway"), (503, "Service Unavailable"),
  (504, "Gateway Timeout"), (505, "HTTP Version Not Supported"),
  (506, "Variant Also Negotiates"), (507, "Insufficient Storage"), (508, "Loop Detected"),
  (510, "Not Extended"), (511, "Network Authentication Required")]

/-- The phrase of a status; other statuses have an empty one. -/
def statusPhrase (status : Int) : String := (statusPhrases.lookup status).getD ""

/-- What a refusing status is called. -/
def statusClass (status : Int) : String :=
  match Int.fdiv status 100 with
  | 1 => "Informational response"
  | 3 => "Redirect response"
  | 4 => "Client error"
  | 5 => "Server error"
  | _ => "Invalid status code"

def TokenFault.message : TokenFault → String
  | refused status url location =>
    statusClass status ++ " '" ++ toString status ++ " " ++ statusPhrase status ++
      "' for url '" ++ url ++ "'\n" ++
      (match location with
        | some target => "Redirect location: '" ++ target ++ "'\n"
        | none => "") ++
      "For more information check: https://developer.mozilla.org/en-US/docs/Web/HTTP/Status/" ++
      toString status
  | unreadable error => error.message
  | notObject => "the answer is not an object"
  | missing name => Text.Quoted.encode name
  | lifetimeNotNumber => "the lifetime is not a number"
  | lifetimeUndefined => "cannot convert float NaN to integer"
  | lifetimeInfinite => "cannot convert float infinity to integer"
  | lifetimeUnreadable text =>
    "invalid literal for int() with base 10: " ++ TextLike.quoted text
  | lifetimeTooLong digits => (Json.SyntaxFault.hugeInteger digits).message
  | lifetimeTooLarge => "int too large to convert to float"

inductive Failure where
  | invalidArgument (problems : List Problem)
  | fault (fault : Fault)
  | operationFailed (fault : Fault) (state : String)
  | malformed (status : Int) (text : Wide) (reason : Undecodable)
  | badTemplate (fault : Path.TemplateFault)
  | timedOut (polls : Int)
  | insideLoop
  | badUrl (fault : UrlFault)
  | badHostName (fault : Url.HostName.NameFault)
  | noRoute (target : String)
  | badRedirect (fault : UrlFault)
  | notStandardJson
  | notUnicode
  | tooDeep
  | codec (fault : Text.CodecFault)
  | nested (array : Bool)
  | token (fault : TokenFault)
  | raised (kind message : String)
  deriving Inhabited

namespace Failure

def message : Failure → String
  | invalidArgument problems => "; ".intercalate (problems.map Problem.message)
  | fault f => f.message
  | operationFailed f _ => f.message
  | malformed status _ reason =>
    toString status ++ ": cannot decode response (" ++ reason.message ++ ")"
  | badTemplate f => f.message
  | timedOut polls =>
    "long-running operation not finished after " ++ toString polls ++ " polls"
  | insideLoop =>
    "blocking call made from inside a running event loop; await the async API instead"
  | badUrl f => f.message
  | badHostName f => f.message
  | noRoute target => "unknown url type: " ++ Text.Quoted.encode target
  | badRedirect f => "Invalid URL in location header: " ++ f.message ++ "."
  | notStandardJson => "Out of range float values are not JSON compliant"
  | notUnicode => "surrogates not allowed"
  | tooDeep => "maximum recursion depth exceeded"
  | codec f => f.message
  | nested array => (Json.ReadFault.tooDeep array).message
  | token f => f.message
  | raised _ text => text

/-- Whether two failures count as one: faults of one kind by status and body, and
undecodable answers by status and text. -/
def same : Failure → Failure → Bool
  | fault a, fault b => a.same b
  | operationFailed a _, operationFailed b _ => a.same b
  | malformed s t _, malformed s' t' _ => s == s' && t == t'
  | _, _ => false

/-- Whether two failures are filed under one key. -/
def sameKey : Failure → Failure → Bool
  | fault a, fault b => a.key == b.key
  | operationFailed a _, operationFailed b _ => a.key == b.key
  | malformed s t _, malformed s' t' _ => s == s' && t == t'
  | _, _ => false

end Failure

end LakeAdmin
