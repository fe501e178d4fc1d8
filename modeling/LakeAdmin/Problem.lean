import LakeAdmin.Schema.Issue
import LakeAdmin.Text.Blank

/-!
What can be wrong with the arguments of a call. All problems of a call are found
before anything is sent.
-/

namespace LakeAdmin

inductive Problem where
  | identityMissing
  | missing (name : String)
  | blank (name : String)
  | negative (option : String)
  | schema (name : String) (issue : Schema.Issue)
  | tokenEmpty
  | tokenForeign
  | stated (text : String)
  deriving DecidableEq, Repr

namespace Problem

def message : Problem → String
  | identityMissing => "identity is required"
  | missing name => name ++ " is required and cannot be null"
  | blank name => name ++ " cannot be empty"
  | negative option => option ++ " must be >= 0"
  | schema name issue =>
    name ++ (if issue.place = "" then "" else "." ++ issue.place) ++ ": " ++ issue.cause.message
  | tokenEmpty => "continuation token is required and cannot be empty"
  | tokenForeign => "page_token must point at the configured ARM host"
  | stated text => text

/-- What is wrong with the value of a name that has to be given and not blank. -/
def ofName (name : String) : Option String → List Problem
  | none => [.missing name]
  | some value => if Text.allBlank value then [.blank name] else []

end Problem

end LakeAdmin
