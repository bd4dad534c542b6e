import Formwork.Assignment.Basic
import Formwork.Condition.Evaluate
/-!
The choice of an assignee. It depends only on the candidates, the known load and the context: every
strategy first leaves out who is not eligible, and all but the rotation then take the one with the
fewest open assignments, of those with the least id. Skills and places that the data name have to be
written, the places only to say that nobody is there.
-/
namespace Formwork

/-- Why nobody was chosen. -/
inductive Unassigned where
  | nobodyEligible
  | missingSkills (skills : List String)
  | elsewhere (place location : String)
  | noRule

def Unassigned.message : Unassigned → String
  | nobodyEligible => "no eligible candidates"
  | missingSkills skills => "no candidate has skills " ++ Value.textsLiteral skills
  | elsewhere place location => s!"no candidate with {place}={location}"
  | noRule => "no assignment rule produced an assignee"

namespace Assignment

/-- Nobody was chosen. -/
def nobody (cause : Unassigned) : Assignment := { reason := some cause.message }

def somebody (c : Candidate) : Assignment := { assignee := some c }

end Assignment

namespace Load

/-- Whether a candidate may get one more assignment. -/
def admits (l : Load) (c : Candidate) (maxOpen : Option Int) : Bool :=
  c.available && (maxOpen.map fun most => decide (l.openFor c.id < most)).getD true

/-- Whether one candidate goes before another: by open assignments, then by id. -/
def before (l : Load) (a b : Candidate) : Bool :=
  l.openFor a.id < l.openFor b.id || (l.openFor a.id == l.openFor b.id && decide (a.id < b.id))

/-- The candidate before whom no other goes, the first of several. -/
def least? (l : Load) : List Candidate → Option Candidate
  | [] => none
  | c :: rest =>
    match least? l rest with
    | none => some c
    | some d => if l.before d c then some d else some c

/-- The choice by load alone. -/
def balance (l : Load) (candidates : List Candidate) : Assignment :=
  match l.least? candidates with
  | none => .nobody .nobodyEligible
  | some c => .somebody c

end Load

/-! ## Rotation -/

/-- The key under which a turn is kept. -/
def rotationKey (rule : Option String) : String :=
  match rule with
  | some id => if id.isEmpty then "default" else id
  | none => "default"

/-- The indices of a list of the given length from `start` on, around its end. -/
def indicesFrom (start length : Nat) : List Nat :=
  (List.range length).map fun offset => (start + offset) % length

/-- The index at which the search for the next turn starts, in a list of the given length. -/
def Load.startIn (l : Load) (rule : Option String) (length : Nat) : Nat :=
  match l.lastIndices.get? (rotationKey rule) with
  | none => 0
  | some last => ((last + 1) % (length : Int)).toNat

/-- The next candidate behind the last one whose turn it was, who goes by the id of an eligible
one. -/
def rotate (candidates eligible : List Candidate) (load : Load) (rule : Option String) :
    Assignment :=
  if eligible.isEmpty then .nobody .nobodyEligible
  else
    -- an eligible one is also a candidate, so that the remainder is taken by a positive length
    let start := load.startIn rule candidates.length
    let found := (indicesFrom start candidates.length).findSome? fun i =>
      candidates[i]?.bind fun c =>
        if eligible.any fun e => e.id == c.id then some (i, c) else none
    match found with
    | some (i, c) => { assignee := some c, nextIndex := some i }
    | none => .nobody .nobodyEligible

/-! ## Skills and places -/

/-- What the data name as further skills: the members of a list, or a single one. -/
def AssignmentRule.askedIn (r : AssignmentRule) (data : Entries Value) : List Value :=
  let field := r.skillField.getD ""
  if field.isEmpty then []
  else
    match (data.get? field).getD .null with
    | .list items => items
    | v => if v.isEmpty then [] else [v]

/-- The skills that a rule asks for, in lower case, each once and in ascending order. -/
def AssignmentRule.skillsIn (r : AssignmentRule) (data : Entries Value) :
    Except Failure (List String) := do
  let asked ← (r.askedIn data).mapM Value.display
  pure (ascending (distinct ((r.requiredSkills ++ asked).map Text.lower)))

/-- Whether a candidate has all of some skills, which are in lower case. -/
def Candidate.hasSkills (c : Candidate) (skills : List String) : Bool :=
  let own := c.skills.map Text.lower
  skills.all own.contains

/-- Where the submission belongs: what the user's attribute says, or else the data. -/
def Context.location (c : Context) (place : String) : Value :=
  let own := ((c.user.map (·.attributes)).bind (·.get? place)).getD .null
  if own.isEmpty then (c.data.get? place).getD .null else own

def Candidate.isAt (c : Candidate) (place : String) (location : Value) : Bool :=
  ((c.attributes.get? place).getD .null).same location

/-! ## Strategies and rules -/

/-- The choice among eligible candidates who have the skills that are asked for. -/
def Load.chooseSkilled (l : Load) (eligible : List Candidate) (skills : List String) : Assignment :=
  match eligible.filter (·.hasSkills skills) with
  | [] => .nobody (.missingSkills skills)
  | skilled => l.balance skilled

/-- The choice among eligible candidates who are where the submission belongs, if it belongs
anywhere. -/
def Load.chooseNear (l : Load) (eligible : List Candidate) (place : String) (location : Value) :
    Except Failure Assignment :=
  if location.isEmpty then .ok (l.balance eligible)
  else
    match eligible.filter (·.isAt place location) with
    | [] => do pure (.nobody (.elsewhere place (← location.display)))
    | near => .ok (l.balance near)

/-- Choose one of the candidates; a rule adds its limits and its wishes. -/
def assign (candidates : List Candidate) (strategy : Strategy) (load : Load) (context : Context)
    (rule : Option AssignmentRule) : Except Failure Assignment := do
  let eligible := candidates.filter fun c => load.admits c (rule.bind (·.maxOpen))
  let chosen : Assignment ← match strategy with
    | .roundRobin => pure (rotate candidates eligible load (rule.map (·.id)))
    | .loadBalance => pure (load.balance eligible)
    | .skillMatch => do
      let skills ← match rule with
        | some r => r.skillsIn context.data
        | none => pure []
      pure (load.chooseSkilled eligible skills)
    | .locationMatch =>
      let place := (rule.map (·.locationAttribute)).getD "site_id"
      load.chooseNear eligible place (context.location place)
  pure { chosen with strategy := some strategy, rule := rule.map (·.id) }

/-- The choice that a rule makes. -/
def AssignmentRule.assign (r : AssignmentRule) (load : Load) (context : Context) :
    Except Failure Assignment :=
  Formwork.assign r.candidates r.strategy load context (some r)

/-- The choice of the first of some rules that applies and finds somebody. -/
def AssignmentRule.firstOf (load : Load) (context : Context) :
    List AssignmentRule → Except Failure Assignment
  | [] => .ok (.nobody .noRule)
  | r :: rest => do
    if ← Group.holds? r.appliesWhen context then
      let chosen ← r.assign load context
      if chosen.assignee.isSome then pure chosen else firstOf load context rest
    else firstOf load context rest

/-- Choose by rules: active ones, those of lower priority number first. -/
def assignByRules (rules : List AssignmentRule) (load : Load) (context : Context) :
    Except Failure Assignment :=
  AssignmentRule.firstOf load context
    ((rules.filter (·.active)).mergeSort fun a b => decide (a.priority ≤ b.priority))

end Formwork
