import LakeAdmin.Model.Identity

/-!
Options of a list call. Options that are not given stay out of the request.
-/

namespace LakeAdmin

open Schema

/-- How a list is filtered, cut, ordered and counted. -/
structure QueryOptions where
  filter : Option String
  top : Option Int
  skip : Option Int
  select : Option String
  orderBy : Option String
  count : Option Bool
  deriving DecidableEq, Repr, Inhabited

namespace QueryOptions

def check : Check QueryOptions :=
  Check.object "QueryOptions" fun members =>
    QueryOptions.mk <$> Check.optional members "filter" Check.text
      <*> Check.optional members "top" Check.integer
      <*> Check.optional members "skip" Check.integer
      <*> Check.optional members "select" Check.text
      <*> Check.optional members "orderby" Check.text
      <*> Check.optional members "count" Check.truth

def toMembers (query : QueryOptions) : Members := [
  ("filter", Json.ofText? query.filter),
  ("top", Json.ofInt? query.top),
  ("skip", Json.ofInt? query.skip),
  ("select", Json.ofText? query.select),
  ("orderby", Json.ofText? query.orderBy),
  ("count", query.count.elim Json.null Json.bool)]

def problems (query : QueryOptions) : List Problem :=
  (if query.top.any (· < 0) then [.negative "top"] else []) ++
    (if query.skip.any (· < 0) then [.negative "skip"] else [])

/-- A truth value in a request. -/
def truthText (b : Bool) : String := if b then "true" else "false"

/-- The parameters of a request, in order. -/
def toParams (query : QueryOptions) : List (String × String) :=
  ([("$filter", query.filter), ("$top", query.top.map toString), ("$skip", query.skip.map toString),
    ("$select", query.select), ("$orderby", query.orderBy), ("$count", query.count.map truthText)
    ] : List (String × Option String)).filterMap fun (name, value) => value.map (name, ·)

end QueryOptions

end LakeAdmin
