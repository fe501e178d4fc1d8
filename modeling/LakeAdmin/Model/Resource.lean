import LakeAdmin.Schema.Scalar

/-!
Documents that the service answers with: resources, the status of an operation that
takes long, and pages of a list. What a resource or a status holds beyond its known
fields is kept as it came.
-/

namespace LakeAdmin

open Schema

variable {τ : Type}

/-- Text tags as a JSON value; null if there are none. -/
def tagsJson (tags : Option (List (τ × τ))) : Json τ :=
  tags.elim .null fun l => .obj (l.map fun (name, value) => (name, .str value))

/-- Members that are not among the named ones. -/
def extrasOf [DecidableEq τ] (known : List τ) (members : Members τ) : Members τ :=
  members.filter fun member => !known.contains member.1

/-- Fields of an object, and with them what it holds beyond the known ones. If the name of
one of these cannot be encoded, nothing else is reported. -/
def withExtras {α : Type} [DecidableEq τ] [TextLike τ] (known : List τ) (members : Members τ)
    (fields : Checked (Members τ → α)) : Checked α :=
  let extras := extrasOf known members
  if extras.all (TextLike.encodes ·.1) then fields <*> pure extras else .fail .notUnicode

structure Resource (τ : Type := Wide) where
  id : Option τ
  name : Option τ
  type : Option τ
  location : Option τ
  tags : Option (List (τ × τ))
  properties : Option (Members τ)
  extras : Members τ
  deriving Inhabited

structure OperationStatus (τ : Type := Wide) where
  status : Option τ
  error : Json τ
  extras : Members τ
  deriving Inhabited

section Fields

open TextLike

variable [TextLike τ]

namespace Resource

/-- The names of the known fields. -/
def known : List τ :=
  ["id", "name", "type", "location", "tags", "properties"].map ofString

/-- All members of a resource: the known fields, null where absent, and the rest. -/
def toMembers (resource : Resource τ) : Members τ := [
  (ofString "id", Json.ofText? resource.id),
  (ofString "name", Json.ofText? resource.name),
  (ofString "type", Json.ofText? resource.type),
  (ofString "location", Json.ofText? resource.location),
  (ofString "tags", tagsJson resource.tags),
  (ofString "properties", resource.properties.elim .null Json.obj)] ++ resource.extras

variable [DecidableEq τ]

def check : Check (Resource τ) τ :=
  Check.object "Resource" fun members => withExtras known members <|
    Resource.mk <$> Check.optional members (ofString "id") Check.text
      <*> Check.optional members (ofString "name") Check.text
      <*> Check.optional members (ofString "type") Check.text
      <*> Check.optional members (ofString "location") Check.text
      <*> Check.optional members (ofString "tags") (Check.dictionary Check.text)
      <*> Check.optional members (ofString "properties") (Check.dictionary Check.any)

end Resource

namespace OperationStatus

def known : List τ := ["status", "error"].map ofString

def toMembers (status : OperationStatus τ) : Members τ :=
  [(ofString "status", Json.ofText? status.status), (ofString "error", status.error)] ++
    status.extras

variable [DecidableEq τ]

def check : Check (OperationStatus τ) τ :=
  Check.object "OperationStatus" fun members => withExtras known members <|
    OperationStatus.mk <$> Check.optional members (ofString "status") Check.text
      <*> Check.defaulted members (ofString "error") .null Check.any

end OperationStatus

end Fields

/-- One page of a list: its items in order, and the link to the next page. -/
structure Page (κ : Type) where
  items : List κ
  nextLink : Option Wide
  deriving DecidableEq, Repr

namespace Page

/-- The link to the next page; an empty one leads nowhere. -/
def continuation (page : Page κ) : Option Wide :=
  page.nextLink.filter (· ≠ "")

def hasMore (page : Page κ) : Bool := page.continuation.isSome

def itemsName (members : Members Wide) : Wide :=
  if members.has "value" then "value" else "items"

/-- The names under which the link may stand, the first present one counting. -/
def linkNames : List Wide := ["nextLink", "@odata.nextLink", "next_link"]

/-- Reads a page, with a check for its items. Null in place of the items is none. -/
def check (item : Check κ Wide) : Check (Page κ) Wide :=
  Check.object "Page" fun members =>
    let link := (linkNames.find? (members.has ·)).getD "nextLink"
    let items : Check (List κ) Wide := fun value =>
      match value with
      | .null => .valid []
      | value => Check.list item value
    Page.mk <$> Check.defaulted members (itemsName members) [] items
      <*> Check.optional members link Check.text

end Page

end LakeAdmin
