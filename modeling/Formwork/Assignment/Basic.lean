import Formwork.Condition.Document
/-!
Assignment: the people who can take over a submission, and the rules by which one of them is chosen.
-/
namespace Formwork

open Document Calendar

inductive Strategy where
  | roundRobin
  | loadBalance
  | skillMatch
  | locationMatch
  deriving DecidableEq

namespace Strategy

def name : Strategy → String
  | roundRobin => "round_robin"
  | loadBalance => "load_balance"
  | skillMatch => "skill_match"
  | locationMatch => "location_match"

instance : Named Strategy where
  all := [roundRobin, loadBalance, skillMatch, locationMatch]
  name := name

end Strategy

structure Candidate where
  id : String
  name : Option String := none
  skills : List String := []
  attributes : Entries Value := []
  available : Bool := true

namespace Candidate

def decoder : Decoder Candidate := Fields.openRecord
  (Candidate.mk <$> Fields.required "id" Decoder.text
    <*> Fields.optional "name" Decoder.text
    <*> Fields.given "skills" [] (Decoder.list Decoder.text)
    <*> Fields.given "attributes" [] Decoder.anyMap
    <*> Fields.given "available" true Decoder.truth)
  "Candidate"

def document (c : Candidate) : Value :=
  .map [("id", .text c.id), ("name", Value.ofText? c.name), ("skills", Value.ofTexts c.skills),
    ("attributes", .map c.attributes), ("available", .bool c.available)]

end Candidate

structure AssignmentRule where
  id : String
  strategy : Strategy
  candidates : List Candidate := []
  appliesWhen : Option Group := none
  /-- Lower ones go first. -/
  priority : Int := 0
  requiredSkills : List String := []
  /-- A data field that asks for further skills. -/
  skillField : Option String := none
  locationAttribute : String := "site_id"
  /-- Who has as many open assignments gets no more. -/
  maxOpen : Option Int := none
  active : Bool := true

namespace AssignmentRule

def decoder (host : Host) : Decoder AssignmentRule := Fields.record
  (AssignmentRule.mk <$> Fields.required "rule_id" Decoder.text
    <*> Fields.required "strategy" (Decoder.oneOf Strategy)
    <*> Fields.given "candidates" [] (Decoder.list Candidate.decoder)
    <*> Fields.optional "applies_when" (Group.decoder host)
    <*> Fields.given "priority" 0 Decoder.whole
    <*> Fields.given "required_skills" [] (Decoder.list Decoder.text)
    <*> Fields.optional "skill_field" Decoder.text
    <*> Fields.given "location_attribute" "site_id" Decoder.text
    <*> Fields.optional "max_open_assignments" Decoder.whole
    <*> Fields.given "is_active" true Decoder.truth)
  "AssignmentRule"

def document (r : AssignmentRule) : Value :=
  .map [("rule_id", .text r.id), ("strategy", ofNamed r.strategy),
    ("candidates", ofList Candidate.document r.candidates),
    ("applies_when", ofOption Group.document r.appliesWhen), ("priority", .int r.priority),
    ("required_skills", Value.ofTexts r.requiredSkills),
    ("skill_field", Value.ofText? r.skillField),
    ("location_attribute", .text r.locationAttribute),
    ("max_open_assignments", Value.ofInt? r.maxOpen), ("is_active", .bool r.active)]

end AssignmentRule

/-- What is known of earlier assignments: how many are open for each person, and whose turn it was
last for each rule. -/
structure Load where
  openAssignments : Entries Int := []
  lastIndices : Entries Int := []

namespace Load

def decoder : Decoder Load := Fields.openRecord
  (Load.mk <$> Fields.given "open_assignments" [] (Decoder.entries Decoder.whole)
    <*> Fields.given "last_indices" [] (Decoder.entries Decoder.whole))
  "LoadSnapshot"

def document (l : Load) : Value :=
  .map [("open_assignments", ofEntries Value.int l.openAssignments),
    ("last_indices", ofEntries Value.int l.lastIndices)]

/-- The open assignments of a person; who is not listed has none. -/
def openFor (l : Load) (id : String) : Int := (l.openAssignments.get? id).getD 0

end Load

/-- The outcome of an assignment; that nobody qualifies is one. -/
structure Assignment where
  assignee : Option Candidate := none
  strategy : Option Strategy := none
  rule : Option String := none
  /-- Whose turn it was, for the caller to keep. -/
  nextIndex : Option Int := none
  reason : Option String := none

namespace Assignment

def decoder : Decoder Assignment := Fields.openRecord
  (Assignment.mk <$> Fields.optional "assignee" Candidate.decoder
    <*> Fields.optional "strategy" (Decoder.oneOf Strategy)
    <*> Fields.optional "rule_id" Decoder.text
    <*> Fields.optional "next_index" Decoder.whole
    <*> Fields.optional "reason" Decoder.text)
  "AssignmentResult"

def document (a : Assignment) : Value :=
  .map [("assignee", ofOption Candidate.document a.assignee),
    ("strategy", ofOption ofNamed a.strategy), ("rule_id", Value.ofText? a.rule),
    ("next_index", Value.ofInt? a.nextIndex), ("reason", Value.ofText? a.reason)]

end Assignment

/-- Who a submission is assigned to. -/
structure Assignee where
  user : String
  name : Option String := none
  since : Option Stamp := none
  rule : Option String := none

namespace Assignee

def decoder : Decoder Assignee := Fields.openRecord
  (Assignee.mk <$> Fields.required "user_id" Decoder.text
    <*> Fields.optional "name" Decoder.text
    <*> Fields.optional "assigned_at" Decoder.stamp
    <*> Fields.optional "rule_id" Decoder.text)
  "Assignee"

def document (a : Assignee) : Value :=
  .map [("user_id", .text a.user), ("name", Value.ofText? a.name),
    ("assigned_at", ofOption ofStamp a.since), ("rule_id", Value.ofText? a.rule)]

end Assignee
end Formwork
