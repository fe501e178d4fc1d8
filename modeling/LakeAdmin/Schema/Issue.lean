/-!
What a schema finds wrong with a value: a cause and the place where it was found.
-/

namespace LakeAdmin.Schema

/-- Rules that tie several fields of a value together, or narrow one down. -/
inductive Rule where
  | defaultStoreListed
  | rangeOrdered
  | secureBaseUrl
  | notNegative
  deriving DecidableEq, Repr

/-- Why a value does not fit. -/
inductive Cause where
  | missing
  | notText
  | notUnicode
  | emptyText
  | notInteger
  | notFinite
  | fractionalInteger
  | unreadableInteger
  | hugeInteger
  | belowMinimum (n : Int)
  | aboveMaximum (n : Int)
  | notTruth
  | unreadableTruth
  | notNumber
  | unreadableNumber
  | notList
  | emptyList
  | notDictionary
  | notModel (name : String)
  | notIpv4
  | broken (rule : Rule)
  deriving DecidableEq, Repr

/-- A cause and the names and indexes that lead to it. -/
structure Issue where
  path : List String
  cause : Cause
  deriving DecidableEq, Repr

def Rule.message : Rule → String
  | defaultStoreListed =>
    "default_data_lake_store_account must be one of data_lake_store_accounts"
  | rangeOrdered => "start_ip_address must not be greater than end_ip_address"
  | secureBaseUrl => "ARM_BASE_URL must start with https://"
  | notNegative => "must be >= 0"

def Cause.message : Cause → String
  | missing => "Field required"
  | notText => "Input should be a valid string"
  | notUnicode =>
    "Input should be a valid string, unable to parse raw data as a unicode string"
  | emptyText => "String should have at least 1 character"
  | notInteger => "Input should be a valid integer"
  | notFinite => "Input should be a finite number"
  | fractionalInteger =>
    "Input should be a valid integer, got a number with a fractional part"
  | unreadableInteger =>
    "Input should be a valid integer, unable to parse string as an integer"
  | hugeInteger => "Unable to parse input string as an integer, exceeded maximum size"
  | belowMinimum n => "Input should be greater than or equal to " ++ toString n
  | aboveMaximum n => "Input should be less than or equal to " ++ toString n
  | notTruth => "Input should be a valid boolean"
  | unreadableTruth => "Input should be a valid boolean, unable to interpret input"
  | notNumber => "Input should be a valid number"
  | unreadableNumber => "Input should be a valid number, unable to parse string as a number"
  | notList => "Input should be a valid list"
  | emptyList => "List should have at least 1 item after validation, not 0"
  | notDictionary => "Input should be a valid dictionary"
  | notModel name => "Input should be a valid dictionary or instance of " ++ name
  | notIpv4 => "Input is not a valid IPv4 address"
  | broken rule => "Value error, " ++ rule.message

def Issue.place (issue : Issue) : String := ".".intercalate issue.path

end LakeAdmin.Schema
