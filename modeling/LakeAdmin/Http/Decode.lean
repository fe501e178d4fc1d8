import LakeAdmin.Failure
import LakeAdmin.Http.Message
import LakeAdmin.Model.Kind

/-!
What an answer holds. A status outside the given ones is a fault, whatever the body;
a body that is not what was asked for makes the answer undecodable, and nothing of it
is used. Either failure holds the text of the body, so where this cannot be read it is
the codec that fails, and a document that is nested too deep fails on its own.
-/

namespace LakeAdmin.Http.Response

/-- The body of a refusal: the JSON document, or the text if there is none. -/
def refusal (response : Response) : Except Failure Document := do
  let text ← response.text.mapError .codec
  if text.allBlank then return .str text
  else
    match Json.ofBytes response.levels response.body with
    | .ok value => return value
    | .error (.unreadable _) => return .str text
    | .error (.tooDeep array) => throw (.nested array)

def fault (response : Response) : Except Failure Fault := do
  let body ← response.refusal
  return {
    status := response.status, body := body
    method := response.request.map (·.1), url := response.request.map (·.2) }

/-- What comes of an answer that refuses. -/
def refused (response : Response) : Failure :=
  match response.fault with
  | .ok fault => .fault fault
  | .error failure => failure

/-- The failure of an answer that is not what was asked for. Its text is read for it. -/
def malformed (response : Response) (reason : Undecodable) : Failure :=
  match response.text with
  | .ok text => .malformed response.status text reason
  | .error fault => .codec fault

def document (response : Response) : Except Failure Document :=
  match Json.ofBytes response.levels response.body with
  | .ok value => .ok value
  | .error (.unreadable e) => .error (response.malformed (.json e))
  | .error (.tooDeep array) => .error (.nested array)

def requireSuccess (response : Response) (success : List Int) : Except Failure Unit :=
  if success.contains response.status then .ok () else .error response.refused

def page (item : Schema.Check κ Wide) (success : List Int) (response : Response) :
    Except Failure (Page κ) := do
  response.requireSuccess success
  let value ← response.document
  match Page.check item value with
  | .valid page => return page
  | .invalid issues => throw (response.malformed (.page issues.length))

def documentIfAny (success : List Int) (response : Response) : Except Failure (Option Document) := do
  response.requireSuccess success
  if response.isBlank then return none
  else
    let value ← response.document
    return some value

/-- The value of a kind that an answer holds, unless its body is blank. -/
def value (kind : String) (check : Schema.Check α Wide) (success : List Int) (response : Response) :
    Except Failure (Option α) := do
  match ← response.documentIfAny success with
  | none => return none
  | some document =>
    match check document with
    | .valid a => return some a
    | .invalid _ => throw (response.malformed (.model kind))

def resource (success : List Int) (response : Response) : Except Failure (Option Resource) :=
  value "Resource" Resource.check success response

end LakeAdmin.Http.Response
