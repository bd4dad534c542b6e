import Formwork.Calendar.Timestamp
/-!
Faults of documents. A fault says where in the document it is, as the names and indices on the way
there, and what is wrong with what stands there.
-/
namespace Formwork.Document

inductive Key where
  | name (s : String)
  | index (n : Nat)
  deriving DecidableEq

def Key.text : Key → String
  | name s => s
  | index n => toString n

inductive Cause where
  | missing
  | unknownField
  | notText
  | notWhole
  | wholeText
  | fractional
  | wholeTooLarge
  | notFinite
  | notNumber
  | numberText
  | notTruth
  | truthText
  | notList
  | notMap
  | notModel (model : String)
  | notObject
  | notOneOf (names : List String)
  | notConstant (name : String)
  | emptyList
  | unknownTag (tag discriminator : String) (known : List String)
  | noTag (discriminator : String)
  | notTime
  | timeNumber (fault : Calendar.TimestampFault)
  | timeText (fault : Calendar.TimestampFault)
  /-- A rule that the parts of the document break together. -/
  | broken (rule : String)
  deriving DecidableEq

namespace Cause

/-- The name under which a cause is known to programs. -/
def code : Cause → String
  | missing => "missing"
  | unknownField => "extra_forbidden"
  | notText => "string_type"
  | notWhole => "int_type"
  | wholeText => "int_parsing"
  | fractional => "int_from_float"
  | wholeTooLarge => "int_parsing_size"
  | notFinite => "finite_number"
  | notNumber => "float_type"
  | numberText => "float_parsing"
  | notTruth => "bool_type"
  | truthText => "bool_parsing"
  | notList => "list_type"
  | notMap => "dict_type"
  | notModel _ => "model_type"
  | notObject => "model_attributes_type"
  | notOneOf _ => "enum"
  | notConstant _ => "literal_error"
  | emptyList => "too_short"
  | unknownTag .. => "union_tag_invalid"
  | noTag _ => "union_tag_not_found"
  | notTime => "datetime_type"
  | timeNumber _ => "datetime_parsing"
  | timeText _ => "datetime_from_date_parsing"
  | broken _ => "value_error"

def quoteAll (names : List String) : List String := names.map fun n => "'" ++ n ++ "'"

/-- Alternatives with commas, the last one behind a word. -/
def alternatives (names : List String) : String :=
  match (quoteAll names).reverse with
  | [] => ""
  | [name] => name
  | last :: others => ", ".intercalate others.reverse ++ " or " ++ last

def message : Cause → String
  | missing => "Field required"
  | unknownField => "Extra inputs are not permitted"
  | notText => "Input should be a valid string"
  | notWhole => "Input should be a valid integer"
  | wholeText => "Input should be a valid integer, unable to parse string as an integer"
  | fractional => "Input should be a valid integer, got a number with a fractional part"
  | wholeTooLarge => "Unable to parse input string as an integer, exceeded maximum size"
  | notFinite => "Input should be a finite number"
  | notNumber => "Input should be a valid number"
  | numberText => "Input should be a valid number, unable to parse string as a number"
  | notTruth => "Input should be a valid boolean"
  | truthText => "Input should be a valid boolean, unable to interpret input"
  | notList => "Input should be a valid list"
  | notMap => "Input should be a valid dictionary"
  | notModel model => "Input should be a valid dictionary or instance of " ++ model
  | notObject => "Input should be a valid dictionary or object to extract fields from"
  | notOneOf names => "Input should be " ++ alternatives names
  | notConstant name => "Input should be '" ++ name ++ "'"
  | emptyList => "List should have at least 1 item after validation, not 0"
  | unknownTag tag discriminator known =>
    "Input tag '" ++ tag ++ "' found using '" ++ discriminator ++
      "' does not match any of the expected tags: " ++ ", ".intercalate (quoteAll known)
  | noTag discriminator => "Unable to extract tag using discriminator '" ++ discriminator ++ "'"
  | notTime => "Input should be a valid datetime"
  | timeNumber fault => "Input should be a valid datetime, " ++ fault.reason
  | timeText fault => "Input should be a valid datetime or date, " ++ fault.reason
  | broken rule => "Value error, " ++ rule

end Cause

structure Fault where
  place : List Key
  cause : Cause
  deriving DecidableEq

/-- The fault seen from one step further out. -/
def Fault.under (key : Key) (f : Fault) : Fault := ⟨key :: f.place, f.cause⟩

end Formwork.Document
