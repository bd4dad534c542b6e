import Formwork.Approval.Record
import Formwork.Condition.Evaluate
/-!
Approval chains. The records of all rounds of a submission stand in one list, in which a replacement
follows the record that it replaces. A chain is at the lowest level of its latest round that has a
pending record. A decision changes one record and then, as the kind of its level asks, the others of
its level; a level that is cleared opens the next one.
-/
namespace Formwork

open Document Calendar

/-! ## Who approves -/

/-- An approver: a person, or whoever holds a role. -/
inductive Approver where
  | person (id : String)
  | holder (role : String)
  deriving DecidableEq

namespace Approver

def id? : Approver → Option String
  | person id => some id
  | holder _ => none

def role? : Approver → Option String
  | person _ => none
  | holder role => some role

end Approver

namespace ApprovalLevel

/-- What a data field says about people: each member of a list, unless it is empty. -/
def namedIn (l : ApprovalLevel) (data : Entries Value) : List Value :=
  let field := l.approverField.getD ""
  if field.isEmpty then []
  else ((data.get? field).getD .null).options.filter fun v => !v.isEmpty

/-- The approvers of a level, those that are named first and the holders of roles last. -/
def approversIn (l : ApprovalLevel) (data : Entries Value) : Except Failure (List Approver) := do
  let people ← (l.namedIn data).mapM Value.display
  pure ((l.approvers ++ people).map .person ++ l.roles.map .holder)

/-- Whom a level asks in a context: nobody where its condition does not hold. -/
def askedIn (l : ApprovalLevel) (context : Context) : Except Failure (List Approver) := do
  if ← Group.holds? l.condition context then l.approversIn context.data else pure []

end ApprovalLevel

namespace ApprovalRecord

/-- Whether someone is the approver of a record. -/
def admits (r : ApprovalRecord) (actor : String) (roles : List String) : Bool :=
  match r.approver, r.role with
  | some id, _ => id == actor
  | none, some role => roles.contains role
  | none, none => false

def isPending (r : ApprovalRecord) : Bool := r.status = .pending

def isWaiting (r : ApprovalRecord) : Bool := r.status = .waiting

/-- Ask the approver of a record for a decision. -/
def request (r : ApprovalRecord) (time : Stamp) : ApprovalRecord :=
  { r with status := .pending, requestedAt := some time }

end ApprovalRecord

/-! ## Chains -/

abbrev Chain := List ApprovalRecord

namespace Chain

/-- The first record of an id. -/
def record? (c : Chain) (id : String) : Option ApprovalRecord := c.find? fun r => r.id == id

/-- Put records in the place of the first one that passes a test. -/
def replaceFirst (test : ApprovalRecord → Bool) (f : ApprovalRecord → Chain) : Chain → Chain
  | [] => []
  | r :: rest => if test r then f r ++ rest else r :: replaceFirst test f rest

/-- The records of one round. -/
def ofRound (c : Chain) (round : Int) : Chain := c.filter fun r => r.round == round

/-- The records of the latest round. -/
def latest (c : Chain) : Chain :=
  match (c.map (·.round)).max? with
  | none => []
  | some round => c.ofRound round

/-- The records of the lowest level among the given ones. -/
def lowest (c : Chain) : Chain :=
  match (c.map (·.level)).min? with
  | none => []
  | some level => c.filter fun r => r.level == level

def byPosition (c : Chain) : Chain := c.mergeSort fun a b => decide (a.position ≤ b.position)

/-- Of records at one level, those that are taken up together: the first in a sequence, or all. -/
def front (c : Chain) : Chain :=
  match c.byPosition with
  | [] => []
  | r :: rest => if r.kind = .sequential then [r] else r :: rest

/-- The records that can be decided now. -/
def actionable (c : Chain) : Chain :=
  let pending : Chain := c.latest.filter (·.isPending)
  pending.lowest.front

/-- What to call those who can decide now. -/
def nextApprovers (c : Chain) : List String := c.actionable.map (·.approverName)

/-- The first record that someone can decide now. -/
def actionableBy? (c : Chain) (actor : String) (roles : List String) : Option ApprovalRecord :=
  c.actionable.find? fun r => r.admits actor roles

/-! ### Start -/

/-- The records of a level, under fresh ids. At the first level that has approvers they are open, in
a sequence only the first of them. -/
def levelRecords (index : Int) (level : ApprovalLevel) (round : Int) (reached : Bool)
    (time : Stamp) : Int → List Approver → Work Chain
  | _, [] => pure []
  | position, a :: rest => do
    let id ← Work.fresh .approval
    let isOpen := reached && (level.kind != .sequential || position == 0)
    let later ← levelRecords index level round reached time (position + 1) rest
    pure ({ id := id, level := index, kind := level.kind, position := position, round := round,
            approver := a.id?, role := a.role?, status := if isOpen then .pending else .waiting,
            requestedAt := if isOpen then some time else none,
            escalateAfter := level.escalateAfter, policy := level.policy,
            delegate := level.delegate } :: later)

/-- The records of levels from an index on. Levels whose condition does not hold, and levels without
approvers, are left out. -/
def levelsFrom (context : Context) (round : Int) :
    Int → Bool → List ApprovalLevel → Work Chain
  | _, _, [] => pure []
  | index, started, level :: rest => do
    let approvers ← Work.lift (level.askedIn context)
    let records ← levelRecords index level round (!started) (.ofInstant context.now) 0 approvers
    let later ← levelsFrom context round (index + 1) (started || !approvers.isEmpty) rest
    pure (records ++ later)

end Chain

/-- Whether a chain applies at all. -/
def ApprovalConfig.isRequired (config : ApprovalConfig) (context : Context) :
    Except Failure Bool :=
  if !config.enabled || config.levels.isEmpty then .ok false
  else
    match config.skipWhen with
    | none => .ok true
    | some group => do pure !(← group.holds context)

/-- The records of a new round, none where the chain does not apply. -/
def ApprovalConfig.startChain (config : ApprovalConfig) (context : Context) (round : Int) :
    Work Chain := do
  if ← Work.lift (config.isRequired context) then
    Chain.levelsFrom context round 0 false config.levels
  else pure []

/-! ## Decisions -/

inductive Decision where
  | approve
  | reject
  | delegate
  deriving DecidableEq

namespace Decision

def name : Decision → String
  | approve => "approve"
  | reject => "reject"
  | delegate => "delegate"

instance : Named Decision where
  all := [approve, reject, delegate]
  name := name

end Decision

/-- A decision with who makes it, when, and what they say. -/
structure Verdict where
  decision : Decision
  actor : String
  comments : Option String := none
  /-- To whom the record is handed over. -/
  delegate : Option String := none
  time : Stamp

/-- What a decision makes of a chain. -/
structure ApprovalOutcome where
  chain : Chain
  status : Status
  decided : Option String := none
  cleared : List Int := []
  next : List String := []

namespace ApprovalOutcome

def decoder : Decoder ApprovalOutcome := Fields.openRecord
  (ApprovalOutcome.mk <$> Fields.required "approvals" (Decoder.list ApprovalRecord.decoder)
    <*> Fields.required "new_status" (Decoder.oneOf Status)
    <*> Fields.optional "decided_record_id" Decoder.text
    <*> Fields.given "cleared_levels" [] (Decoder.list Decoder.whole)
    <*> Fields.given "next_approvers" [] (Decoder.list Decoder.text))
  "ApprovalResult"

def document (o : ApprovalOutcome) : Value :=
  .map [("approvals", ofList ApprovalRecord.document o.chain), ("new_status", ofNamed o.status),
    ("decided_record_id", Value.ofText? o.decided), ("cleared_levels", ofList Value.int o.cleared),
    ("next_approvers", Value.ofTexts o.next)]

def isApproved (o : ApprovalOutcome) : Bool := o.status = .completed

def isRejected (o : ApprovalOutcome) : Bool := o.status = .rejected

end ApprovalOutcome

namespace ApprovalRecord

/-- The record with a decision written into it. -/
def decideAs (r : ApprovalRecord) (status : ApprovalStatus) (v : Verdict) : ApprovalRecord :=
  { r with status := status, decidedAt := some v.time, decidedBy := some v.actor,
           comments := v.comments }

/-- The record of the one to whom a decision is handed over. -/
def replacement (r : ApprovalRecord) (id delegate : String) (v : Verdict) : ApprovalRecord :=
  { r with id := id, approver := some delegate, role := none, status := .pending,
           requestedAt := some v.time, decidedAt := none, decidedBy := none, comments := none,
           delegatedTo := none, delegatedBy := some v.actor, delegate := none, escalated := false }

/-- Whether two records belong to the same level of the same round. -/
def isBeside (r target : ApprovalRecord) : Bool :=
  r.round == target.round && r.level == target.level

/-- Whether a record waits behind the level of another. -/
def waitsBehind (r target : ApprovalRecord) : Bool :=
  r.round == target.round && decide (target.level < r.level) && r.isWaiting

end ApprovalRecord

namespace Chain

/-- Write a decision into the record of an id. -/
def write (c : Chain) (id : String) (status : ApprovalStatus) (v : Verdict) : Chain :=
  c.replaceFirst (fun r => r.id == id) fun r => [r.decideAs status v]

/-- The records that take the place of a decided one's open neighbours. -/
def settle (c : Chain) (target : ApprovalRecord) (time : Stamp) : Chain :=
  c.map fun r =>
    if r.isBeside target && r.status.isOpen then
      { r with status := .delegated, decidedAt := some time }
    else r

/-- Open the first in a sequence of records. -/
def openFirst (test : ApprovalRecord → Bool) (time : Stamp) (c : Chain) : Chain :=
  match ((c.filter test).map (·.position)).min? with
  | none => c
  | some position =>
    c.replaceFirst (fun r => test r && r.position == position) fun r => [r.request time]

/-- Open the records that pass a test. -/
def openAll (test : ApprovalRecord → Bool) (time : Stamp) (c : Chain) : Chain :=
  c.map fun r => if test r then r.request time else r

/-- Carry an approval on through its level; says also whether the level is cleared. -/
def advance (c : Chain) (target : ApprovalRecord) (time : Stamp) : Chain × Bool :=
  match target.kind with
  | .anyOf => (c.settle target time, true)
  | .sequential =>
    let waits (r : ApprovalRecord) := r.isBeside target && r.isWaiting
    if c.any waits then (c.openFirst waits time, false)
    else (c, !c.any fun r => r.isBeside target && r.isPending)
  | .parallel => (c, !c.any fun r => r.isBeside target && r.status.isOpen)

/-- Open the lowest level that waits behind a cleared one, if any does. -/
def openNext? (c : Chain) (target : ApprovalRecord) (time : Stamp) : Option Chain :=
  let later : Chain := c.filter fun r => r.waitsBehind target
  match later.lowest.byPosition with
  | [] => none
  | first :: _ =>
    let waits (r : ApprovalRecord) := r.waitsBehind target && r.level == first.level
    some (if first.kind = .sequential then c.openFirst waits time else c.openAll waits time)

/-- The outcome that leaves a chain pending. -/
def pendingOutcome (c : Chain) (id : String) (cleared : List Int) : ApprovalOutcome :=
  ⟨c, .pendingApproval, some id, cleared, c.nextApprovers⟩

/-- Approve a record; the chain is completed when no level is left behind the last cleared one. -/
def approve (c : Chain) (target : ApprovalRecord) (v : Verdict) : ApprovalOutcome :=
  let (c, cleared) := (c.write target.id .approved v).advance target v.time
  if cleared then
    match c.openNext? target v.time with
    | some c => c.pendingOutcome target.id [target.level]
    | none => ⟨c, .completed, some target.id, [target.level], []⟩
  else c.pendingOutcome target.id []

/-- Reject a record, and with it the round. -/
def reject (c : Chain) (target : ApprovalRecord) (v : Verdict) : ApprovalOutcome :=
  let skipped := (c.write target.id .rejected v).map fun r =>
    if r.round == target.round && r.status.isOpen then { r with status := .skipped } else r
  ⟨skipped, .rejected, some target.id, [], []⟩

/-- Hand a record over to a delegate, whose own record follows it. -/
def handOver (c : Chain) (target : ApprovalRecord) (id delegate : String) (v : Verdict) :
    ApprovalOutcome :=
  let c := c.replaceFirst (fun r => r.id == target.id) fun r =>
    [{ r.decideAs .delegated v with delegatedTo := some delegate }, r.replacement id delegate v]
  c.pendingOutcome target.id []

/-- The delegate that a decision names, or else the one that the record names. -/
def delegateOf? (target : ApprovalRecord) (v : Verdict) : Option String :=
  (v.delegate.filter (!·.isEmpty)).or (target.delegate.filter (!·.isEmpty))

/-- Make a decision on the record of an id. -/
def decide (c : Chain) (id : String) (v : Verdict) : Work ApprovalOutcome :=
  match c.record? id with
  | none => throw .noRecord
  | some target =>
    match v.decision with
    | .approve => pure (c.approve target v)
    | .reject => pure (c.reject target v)
    | .delegate =>
      match delegateOf? target v with
      | none =>
        Work.refuse .validation "Delegation requires a delegate" [("record_id", .text id)]
      | some delegate => do
        let fresh ← Work.fresh .approval
        pure (c.handOver target fresh delegate v)

/-! ### Summary -/

/-- How many records have each status, in the latest round, and who is asked now. -/
def summary (c : Chain) : Value :=
  let current := c.latest
  let now := current.actionable
  .map ([("round", .int ((current.head?.map (·.round)).getD 0)),
      ("total", .int current.length)] ++
    ApprovalStatus.all.map (fun s =>
      (s.name, .int (current.countP fun r => r.status = s))) ++
    [("current_level", Value.ofInt? (now.head?.map (·.level))),
      ("pending_approvers", Value.ofTexts (now.map (·.approverName)))])

end Chain
end Formwork
