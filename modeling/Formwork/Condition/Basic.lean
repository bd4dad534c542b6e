import Formwork.Document.Scalar
import Formwork.Pattern.Search
/-!
Conditions: one comparison of something in a context with a given value, and groups that ask for all
or for any of their members.
-/
namespace Formwork

open Document

inductive Operator where
  | equals
  | notEquals
  | contains
  | notContains
  | startsWith
  | endsWith
  | greaterThan
  | lessThan
  | greaterOrEqual
  | lessOrEqual
  | between
  | isEmpty
  | isNotEmpty
  | isIn
  | isNotIn
  | matchesPattern
  deriving DecidableEq

namespace Operator

def name : Operator → String
  | equals => "equals"
  | notEquals => "not_equals"
  | contains => "contains"
  | notContains => "not_contains"
  | startsWith => "starts_with"
  | endsWith => "ends_with"
  | greaterThan => "greater_than"
  | lessThan => "less_than"
  | greaterOrEqual => "greater_or_equal"
  | lessOrEqual => "less_or_equal"
  | between => "between"
  | isEmpty => "is_empty"
  | isNotEmpty => "is_not_empty"
  | isIn => "in"
  | isNotIn => "not_in"
  | matchesPattern => "matches_pattern"

instance : Named Operator where
  all := [equals, notEquals, contains, notContains, startsWith, endsWith, greaterThan, lessThan,
    greaterOrEqual, lessOrEqual, between, isEmpty, isNotEmpty, isIn, isNotIn, matchesPattern]
  name := name

/-- Operators that compare by an order. -/
def isOrdering : Operator → Bool
  | greaterThan | lessThan | greaterOrEqual | lessOrEqual | between => true
  | _ => false

end Operator

/-- As what both sides of a comparison are read. -/
inductive ValueType where
  | auto
  | string
  | number
  | date
  | boolean
  deriving DecidableEq

namespace ValueType

def name : ValueType → String
  | auto => "auto"
  | string => "string"
  | number => "number"
  | date => "date"
  | boolean => "boolean"

instance : Named ValueType where
  all := [auto, string, number, date, boolean]
  name := name

end ValueType

/-- Where the left side of a comparison comes from. -/
inductive Source where
  | field
  | userRole
  | userAttribute
  | submissionStatus
  | time
  deriving DecidableEq

namespace Source

def name : Source → String
  | field => "field"
  | userRole => "user_role"
  | userAttribute => "user_attribute"
  | submissionStatus => "submission_status"
  | time => "time"

instance : Named Source where
  all := [field, userRole, userAttribute, submissionStatus, time]
  name := name

end Source

structure Condition where
  field : String
  operator : Operator
  value : Value := .null
  valueType : ValueType := .auto
  source : Source := .field

/-- How the members of a group are combined. -/
inductive Logic where
  | all
  | any
  deriving DecidableEq

namespace Logic

def name : Logic → String
  | all => "AND"
  | any => "OR"

instance : Named Logic where
  all := [all, any]
  name := name

end Logic

/-- A condition, or a group inside a group. -/
inductive Node where
  | leaf (condition : Condition)
  | group (logic : Logic) (nodes : List Node)

structure Group where
  logic : Logic := .all
  nodes : List Node := []

def Group.node (g : Group) : Node := .group g.logic g.nodes

/-- What the parts of a condition must not combine. -/
inductive Condition.Misuse where
  | untimely (operator : Operator)
  | noPair
  /-- A value that shows a pattern with a fault. -/
  | badPattern (literal pattern : String) (fault : Pattern.Fault)

namespace Condition

def Misuse.message : Misuse → String
  | untimely operator => s!"operator '{operator.name}' cannot compare the current time"
  | noPair => "between requires a two-element [low, high] value"
  | badPattern literal pattern fault => s!"invalid pattern {literal}: {fault.message pattern}"

def isPair : Value → Bool
  | .list [_, _] => true
  | _ => false

/-- A condition makes sense if its operator suits the source and the value suits the operator. -/
def misuse? (host : Host) (c : Condition) : Except Failure (Option Misuse) :=
  if c.source = .time ∧ !c.operator.isOrdering then pure (some (.untimely c.operator))
  else if c.operator = .between then pure (if isPair c.value then none else some .noPair)
  else if c.operator = .matchesPattern then do
    let pattern ← c.value.display
    match Pattern.read host pattern with
    | .ok _ => pure none
    | .error (.breach breach) => throw (.pattern breach)
    | .error fault => pure (some (.badPattern (← c.value.literal) pattern fault))
  else pure none

def checked (host : Host) (c : Condition) : Checked Condition :=
  match c.misuse? host with
  | .ok none => .ok c
  | .ok (some misuse) => .broken misuse.message
  | .error failure => if failure.isReported then .broken failure.message else .failed failure

end Condition
end Formwork
