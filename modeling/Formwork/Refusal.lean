import Formwork.Data.Value
/-!
Refusals: the answers of the library to requests that it does not carry out. The kinds form a tree,
in which each kind inherits from its parent how a web service answers it.
-/
namespace Formwork

namespace Refusal

inductive Kind where
  | general
  | authorization
  | unauthorized
  | validation
  | configuration
  | notFound
  | stepNotFound
  | conflict
  | concurrency
  | invalidState
  | engine
  | actionNotAvailable
  | guardNotSatisfied
  | ruleExecution
  deriving DecidableEq

namespace Kind

def all : List Kind :=
  [general, authorization, unauthorized, validation, configuration, notFound, stepNotFound,
    conflict, concurrency, invalidState, engine, actionNotAvailable, guardNotSatisfied,
    ruleExecution]

def parent? : Kind → Option Kind
  | general => none
  | authorization | validation | notFound | conflict | engine => some general
  | unauthorized => some authorization
  | configuration => some validation
  | stepNotFound => some notFound
  | concurrency | invalidState => some conflict
  | actionNotAvailable | guardNotSatisfied | ruleExecution => some engine

/-- The kinds above a kind, the nearest first. -/
def ancestors (k : Kind) : List Kind :=
  match k.parent? with
  | none => []
  | some p => p :: p.parent?.toList

def code : Kind → String
  | general => "DOMAIN_ERROR"
  | authorization => "AUTHORIZATION_ERROR"
  | unauthorized => "UNAUTHORIZED"
  | validation => "VALIDATION_ERROR"
  | configuration => "CONFIGURATION_ERROR"
  | notFound => "NOT_FOUND"
  | stepNotFound => "STEP_NOT_FOUND"
  | conflict => "CONFLICT"
  | concurrency => "CONCURRENCY_CONFLICT"
  | invalidState => "INVALID_STATE"
  | engine => "ENGINE_ERROR"
  | actionNotAvailable => "ACTION_NOT_AVAILABLE"
  | guardNotSatisfied => "GUARD_NOT_SATISFIED"
  | ruleExecution => "RULE_EXECUTION_ERROR"

/-- The status with which a web service answers. -/
def httpStatus : Kind → Nat
  | authorization | unauthorized => 403
  | notFound | stepNotFound => 404
  | conflict | concurrency | invalidState => 409
  | engine | ruleExecution => 500
  | general | validation | configuration | actionNotAvailable | guardNotSatisfied => 400

end Kind
end Refusal

structure Refusal where
  kind : Refusal.Kind
  message : String
  details : Entries Value
  /-- A code of its own in place of the kind's. -/
  ownCode : Option String := none

namespace Refusal

def code (r : Refusal) : String := r.ownCode.getD r.kind.code

/-- The body with which a web service answers. -/
def body (r : Refusal) : Value :=
  .map [("error", .map [("code", .text r.code), ("message", .text r.message),
    ("details", .map r.details)])]

end Refusal
end Formwork
