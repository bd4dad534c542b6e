import Formwork.Lifecycle.Act
import Formwork.Template.Basic
import Formwork.Proofs.Automation.Acting
/-!
# What a transition of a template reports

When an action or a decision changes the status of a submission, rules run that wait for the change,
and some of their actions make transitions of their own. The transition that is handed on is the
first one with the state of the last, so it tells of everything as long as no rule escalates an
approval: an escalation may move the submission to another step, and nothing tells of it.
-/
namespace Formwork

/-! ## What comes of the actions of rules -/

namespace ActionOutcome

/-- The instructions that came of an action, of its own and of the transition that it made. -/
def asked (o : ActionOutcome) : List Instruction :=
  o.instruction.toList ++ o.transition.toList.flatMap (·.instructions)

/-- The updates that came of an action, of its own and of the transition that it made. -/
def changed (o : ActionOutcome) : List Updates :=
  (o.update.map Updates.single).toList ++ (o.transition.map (·.updates)).toList

end ActionOutcome

namespace RuleResult

/-- The outcomes of all actions of some rules. -/
def outcomes (results : List RuleResult) : List ActionOutcome := results.flatMap (·.actions)

variable {results : List RuleResult}

theorem flatMap_instructions (results : List RuleResult) :
    results.flatMap (·.instructions) = (outcomes results).filterMap (·.instruction) := by
  simp [outcomes, instructions, List.filterMap_flatMap]

theorem flatMap_transitions (results : List RuleResult) :
    results.flatMap (·.transitions) = (outcomes results).filterMap (·.transition) := by
  simp [outcomes, transitions, List.filterMap_flatMap]

section Updates

variable {field property : String}

theorem last?_filterMap_update {actions : List ActionOutcome}
    (still : ∀ o ∈ actions, ∀ t, o.transition = some t → t.updates = []) :
    Updates.last? ((actions.filterMap (·.update)).map Updates.single) field property =
      Updates.last? (actions.flatMap (·.changed)) field property := by
  induction actions with
  | nil => rfl
  | cons o rest ih =>
    obtain ⟨hstill, hrest⟩ := List.forall_mem_cons.mp still
    have hown : Updates.last? o.changed field property =
        Updates.last? (o.update.map Updates.single).toList field property := by
      unfold ActionOutcome.changed
      cases htransition : o.transition with
      | none => simp
      | some t => simp [Updates.last?_append, Updates.last?_cons, Updates.get?, hstill t htransition]
    rw [List.flatMap_cons, Updates.last?_append, hown, ← ih hrest]
    cases hupdate : o.update with
    | none => simp [hupdate]
    | some u => simp [hupdate, Updates.last?_cons]

/-- Where no transition sets anything, what is merged is what the actions set themselves. -/
theorem last?_updates (still : ∀ o ∈ outcomes results, ∀ t, o.transition = some t → t.updates = []) :
    Updates.last? (results.map (·.updates)) field property =
      Updates.last? ((outcomes results).flatMap (·.changed)) field property := by
  induction results with
  | nil => rfl
  | cons r rest ih =>
    simp only [outcomes, List.flatMap_cons, List.forall_mem_append] at still
    rw [List.map_cons, Updates.last?_cons, ih still.2, updates, Updates.get?_ofList,
      last?_filterMap_update still.1, outcomes, outcomes, List.flatMap_cons, List.flatMap_append,
      Updates.last?_append]

end Updates

end RuleResult

/-! ## Reports -/

/-- A transition reports a first one and what came of the actions after it: it describes the state
in which the submission was left, has all instructions, and sets each property as the last one did
that set it. -/
structure Transition.Reports (t : Transition) (w : Workflow) (first : Transition)
    (outcomes : List ActionOutcome) : Prop extends t.Describes w where
  instructions : ∀ i ∈ first.instructions ++ outcomes.flatMap (·.asked), i ∈ t.instructions
  updates : ∀ field property, t.updates.get? field property =
    Updates.last? (first.updates :: outcomes.flatMap (·.changed)) field property

/-- A transition with the results of the rules after it, if any ran. -/
def Transition.joined (first : Transition) (results : List RuleResult) : Transition :=
  if results.isEmpty then first else first.withResults results

namespace Transition

variable {first : Transition} {w : Workflow} {results : List RuleResult}

theorem joined_status (plain : first.Plain w) (results : List RuleResult) :
    (first.joined results).status = (first.joined results).state.status := by
  unfold joined
  split
  · exact plain.status
  · rfl

theorem joined_instructions (first : Transition) (results : List RuleResult) :
    (first.joined results).instructions =
      first.instructions ++ (RuleResult.outcomes results).filterMap (·.instruction) := by
  unfold joined
  cases results with
  | nil => simp [RuleResult.outcomes]
  | cons r rest => exact congrArg (first.instructions ++ ·) (RuleResult.flatMap_instructions _)

theorem joined_updates (plain : first.Plain w) (results : List RuleResult)
    (field property : String) : (first.joined results).updates.get? field property =
      Updates.last? (first.updates :: results.map (·.updates)) field property := by
  unfold joined
  cases results with
  | nil => simp [Updates.last?_cons]
  | cons r rest =>
    refine Updates.get?_mergeAll fun upper hupper => ?_
    rcases List.mem_cons.mp hupper with rfl | hupper
    · exact plain.updates
    · obtain ⟨result, -, rfl⟩ := List.mem_map.mp hupper
      exact Updates.ofList_proper _

theorem joined_state (first : Transition) (results : List RuleResult) :
    (first.joined results).state = first.state ∨ ∃ o ∈ RuleResult.outcomes results, ∃ t,
      o.transition = some t ∧ (first.joined results).state = t.state := by
  unfold joined
  split
  · exact .inl rfl
  · simp only [withResults, RuleResult.lastState, RuleResult.flatMap_transitions]
    cases hlast : ((RuleResult.outcomes results).filterMap (·.transition)).getLast? with
    | none => exact .inl rfl
    | some t =>
      obtain ⟨o, ho, ht⟩ := List.mem_filterMap.mp (List.mem_of_getLast? hlast)
      exact .inr ⟨o, ho, t, ht, rfl⟩

theorem joined_step (first : Transition) (results : List RuleResult) :
    (first.joined results).step = first.step ∧
      (first.joined results).assignee = first.assignee := by
  unfold joined
  split <;> exact ⟨rfl, rfl⟩

theorem joined_reports (plain : first.Plain w)
    (ends : ∀ o ∈ RuleResult.outcomes results, ∀ t, o.transition = some t → t.Ends first.state) :
    (first.joined results).Reports w first (RuleResult.outcomes results) := by
  obtain ⟨hstep, hassignee⟩ := joined_step first results
  have hsame : (first.joined results).state.step = first.state.step ∧
      (first.joined results).state.assignee = first.state.assignee := by
    rcases joined_state first results with hstate | ⟨o, ho, t, ht, hstate⟩
    · rw [hstate]
      exact ⟨rfl, rfl⟩
    · rw [hstate]
      exact ⟨(ends o ho t ht).step, (ends o ho t ht).assignee⟩
  refine ⟨⟨joined_status plain results, ?_, ?_⟩, ?_, ?_⟩
  · rw [hsame.1, hstep]
    exact plain.step
  · rw [hsame.2, hassignee]
    exact plain.assignee
  · intro i hi
    rw [joined_instructions]
    rcases List.mem_append.mp hi with hi | hi
    · exact List.mem_append_left _ hi
    · obtain ⟨o, ho, hi⟩ := List.mem_flatMap.mp hi
      rcases List.mem_append.mp hi with hi | hi
      · exact List.mem_append_right _
          (List.mem_filterMap.mpr ⟨o, ho, Option.mem_toList.mp hi⟩)
      · obtain ⟨t, ht, hi⟩ := List.mem_flatMap.mp hi
        rw [(ends o ho t (Option.mem_toList.mp ht)).instructions] at hi
        cases hi
  · intro field property
    rw [joined_updates plain, Updates.last?_cons, Updates.last?_cons, RuleResult.last?_updates]
    exact fun o ho t ht => (ends o ho t ht).updates

/-- An escalation is not reported: the instruction that tells of it is not handed on. -/
theorem quiet_of_joined_reports (plain : first.Plain w)
    (tells : ∀ o ∈ RuleResult.outcomes results,
      (∀ i, o.instruction = some i → i.kind ≠ .escalate) ∧ (o.escalations ≠ [] →
        ∃ t, o.transition = some t ∧ ∃ i ∈ t.instructions, i.kind = .escalate))
    (reports : (first.joined results).Reports w first (RuleResult.outcomes results)) :
    ∀ o ∈ RuleResult.outcomes results, o.escalations = [] := by
  intro o ho
  by_contra loud
  obtain ⟨t, ht, i, hi, hkind⟩ := (tells o ho).2 loud
  have hasked : i ∈ o.asked :=
    List.mem_append_right _ (List.mem_flatMap.mpr ⟨t, Option.mem_toList.mpr ht, hi⟩)
  have htold := reports.instructions i
    (List.mem_append_right _ (List.mem_flatMap.mpr ⟨o, ho, hasked⟩))
  rw [joined_instructions] at htold
  rcases List.mem_append.mp htold with htold | htold
  · exact plain.instructions i htold hkind
  · obtain ⟨o', ho', hown⟩ := List.mem_filterMap.mp htold
    exact (tells o' ho').1 i hown hkind

end Transition

/-! ## Transitions of a template -/

namespace FormTemplate

variable {t : FormTemplate} {s : Submission} {r : WorkflowRequest} {settings : Settings}
  {first done : Transition} {results : List RuleResult} {ids left : Ids}

/-- What comes of the rules that wait for the status to which a transition has led; of none, if the
status is as before. -/
def statusRules (t : FormTemplate) (r : WorkflowRequest) (settings : Settings)
    (first : Transition) : Work (List RuleResult) :=
  let previous := r.submission.status
  if previous = some first.status then pure []
  else
    let context := r.context.withStatus first.status
    let next := { r with submission := { r.submission with state := some first.state },
                         context := context, expectedVersion := some first.state.version }
    BusinessRule.evaluate t.businessRules .onStatusChange
      { trigger := .onStatusChange, oldStatus := previous, newStatus := some first.status } settings
      ⟨context, some next⟩

theorem afterTransition_eq (t : FormTemplate) (r : WorkflowRequest) (settings : Settings)
    (first : Transition) : t.afterTransition r settings first = (do
      let results ← t.statusRules r settings first
      pure (first.joined results)) := by
  unfold afterTransition statusRules
  dsimp only
  split
  · rfl
  · rfl

theorem statusRules_acts (h : (t.statusRules r settings first).Returns ids results left) :
    (r.submission.status = some first.status ∧ results = []) ∨
      (r.submission.status ≠ some first.status ∧ ∃ s s' : Stage, s.state? = some first.state ∧
        Stage.Acts settings (t.businessRules.filter (·.trigger = .onStatusChange)) s
          (RuleResult.outcomes results) s') := by
  unfold statusRules at h
  dsimp only at h
  split at h
  · rename_i hsame
    simp only [Work.pure_returns_iff] at h
    exact .inl ⟨hsame, h.1.symm⟩
  · rename_i hchanged
    obtain ⟨s', hacts⟩ := BusinessRule.evaluate_acts h
    exact .inr ⟨hchanged, _, s', rfl, hacts⟩

theorem workflow_of_requireWorkflow {context : Context} {load : Load}
    {note : Except Failure RequestNote} (h : t.requireWorkflow s context load note = .ok r) :
    t.workflow = some r.workflow := by
  unfold requireWorkflow workflowRequest? at h
  cases hworkflow : t.workflow with
  | none => simp [hworkflow] at h
  | some w =>
    cases hstate : s.state with
    | none => simp [hworkflow, hstate] at h
    | some state =>
      simp only [hworkflow, hstate, Work.except_bind_eq_ok_iff] at h
      obtain ⟨_, -, h⟩ := h
      cases h
      rfl

/-- What an operation on a submission and the rules after it make. -/
structure Makes (t : FormTemplate) (r : WorkflowRequest) (settings : Settings)
    (operation : Work Transition) (ids : Ids) (first : Transition) (results : List RuleResult)
    (done : Transition) (left : Ids) : Prop where
  operated : ∃ between, operation.Returns ids first between ∧
    (t.statusRules r settings first).Returns between results left
  joined : done = first.joined results

theorem afterTransition_makes {operation : Work Transition}
    (h : (operation >>= t.afterTransition r settings).Returns ids done left) :
    ∃ first results, t.Makes r settings operation ids first results done left := by
  simp only [Work.bind_returns_iff, afterTransition_eq, Work.pure_returns_iff] at h
  obtain ⟨first, between, hfirst, results, _, hresults, rfl, rfl⟩ := h
  exact ⟨first, results, ⟨between, hfirst, hresults⟩, rfl⟩

/-- A rule that runs on a change of status feeds no escalation back. -/
def EscalatesNothing (t : FormTemplate) : Prop :=
  ∀ rule ∈ t.businessRules, rule.trigger = .onStatusChange → ∀ a ∈ rule.actions, a.kind ≠ .escalate

section Makes

variable {operation : Work Transition}
  (makes : t.Makes r settings operation ids first results done left)
  (plain : first.Plain r.workflow)
include makes plain

/-- What is handed on has the status of its state, and it reports everything exactly if nothing was
escalated. -/
theorem Makes.reports_iff : done.status = done.state.status ∧
    (done.Reports r.workflow first (RuleResult.outcomes results) ↔
      ∀ o ∈ RuleResult.outcomes results, o.escalations = []) := by
  obtain ⟨⟨between, -, hresults⟩, rfl⟩ := makes
  refine ⟨Transition.joined_status plain results, ?_⟩
  rcases statusRules_acts hresults with ⟨-, rfl⟩ | ⟨-, stage, stage', on, hacts⟩
  · have hnone (o : ActionOutcome) : o ∉ RuleResult.outcomes [] := List.not_mem_nil
    exact ⟨fun _ o ho => absurd ho (hnone o),
      fun _ => Transition.joined_reports plain fun o ho => absurd ho (hnone o)⟩
  · exact ⟨Transition.quiet_of_joined_reports plain hacts.tells,
      fun quiet => Transition.joined_reports plain (hacts.ends_of_quiet on quiet)⟩

theorem Makes.reports_of_escalatesNothing (nothing : t.EscalatesNothing) :
    done.Reports r.workflow first (RuleResult.outcomes results) := by
  refine (makes.reports_iff plain).2.mpr ?_
  obtain ⟨between, -, hresults⟩ := makes.operated
  rcases statusRules_acts hresults with ⟨-, rfl⟩ | ⟨-, stage, stage', -, hacts⟩
  · intro o ho
    cases ho
  · refine hacts.quiet_of_no_escalate fun rule hrule => ?_
    obtain ⟨member, htrigger⟩ := List.mem_filter.mp hrule
    exact nothing rule member (by simpa using htrigger)

end Makes

theorem Makes.decide_reports {ballot : Except Failure Ballot}
    (makes : t.Makes r settings (r.decide ballot) ids first results done left) :
    done.Reports r.workflow first (RuleResult.outcomes results) := by
  obtain ⟨between, hdecided, hresults⟩ := makes.operated
  refine (makes.reports_iff (WorkflowRequest.decide_plain hdecided)).2.mpr ?_
  rcases statusRules_acts hresults with ⟨-, rfl⟩ | ⟨hchanged, stage, stage', on, hacts⟩
  · intro o ho
    cases ho
  · -- Only a chain that is pending is decided on, so it is pending no more once the status changed.
    refine hacts.quiet_of_not_pending on fun hpending => hchanged ?_
    cases hstate : r.submission.state with
    | none =>
      have hrefused : ¬ (r.decide ballot).Returns ids first between := by
        simp [WorkflowRequest.decide, WorkflowRequest.requireState, hstate, Work.bind_returns_iff]
      exact absurd hdecided hrefused
    | some state =>
      have hwas := (WorkflowRequest.decide_returns hdecided hstate).1
      have hstatus := (WorkflowRequest.decide_plain hdecided).status
      rw [Submission.status, hstate, hstatus, hpending, Option.map_some, hwas]

/-- A transition of a template has the status of its state. After a decision it describes that state
and tells of everything that the decision and the rules after it asked for and set; after an action
it does so exactly if no rule escalated anything, as is the case where none is made to. -/
theorem reports_what_happened (t : FormTemplate) (s : Submission) (settings : Settings)
    (context : Context) :
    (∀ actionId load note ids done left,
      (t.execute s actionId settings context load note).Returns ids done left →
      ∃ r first results, t.requireWorkflow s context load note = .ok r ∧
        t.workflow = some r.workflow ∧
        t.Makes r settings (r.execute actionId) ids first results done left ∧
        done.status = done.state.status ∧
        (done.Reports r.workflow first (RuleResult.outcomes results) ↔
          ∀ o ∈ RuleResult.outcomes results, o.escalations = []) ∧
        (t.EscalatesNothing → done.Reports r.workflow first (RuleResult.outcomes results))) ∧
    ∀ ballot note ids done left,
      (t.decide s ballot settings context note).Returns ids done left →
      ∃ r first results, t.requireWorkflow s context {} note = .ok r ∧
        t.workflow = some r.workflow ∧
        t.Makes r settings (r.decide ballot) ids first results done left ∧
        done.Reports r.workflow first (RuleResult.outcomes results) := by
  constructor
  · intro actionId load note ids done left h
    simp only [execute, Work.bind_returns_iff, Work.lift_returns_iff] at h
    obtain ⟨r, _, ⟨hrequired, rfl⟩, h⟩ := h
    obtain ⟨first, results, makes⟩ := afterTransition_makes (Work.bind_returns_iff.mpr h)
    obtain ⟨between, hexecuted, -⟩ := makes.operated
    have plain := WorkflowRequest.execute_plain hexecuted
    obtain ⟨hstatus, hreports⟩ := makes.reports_iff plain
    exact ⟨r, first, results, hrequired, workflow_of_requireWorkflow hrequired, makes, hstatus,
      hreports, makes.reports_of_escalatesNothing plain⟩
  · intro ballot note ids done left h
    simp only [decide, Work.bind_returns_iff, Work.lift_returns_iff] at h
    obtain ⟨r, _, ⟨hrequired, rfl⟩, h⟩ := h
    obtain ⟨first, results, makes⟩ := afterTransition_makes (Work.bind_returns_iff.mpr h)
    exact ⟨r, first, results, hrequired, workflow_of_requireWorkflow hrequired, makes,
      makes.decide_reports⟩

end FormTemplate

/-! A claim that Ann signs, and that is taken up again by Cleo when she has decided or when it is
overdue, which it is at once. -/
namespace Overdue

def draft : Step :=
  { id := "draft", name := none, kind := .start,
    actions := [{ id := "send", name := none, target := "sign", requiredRoles := [], guard := none,
                  autoAssign := true, autoActions := [], requiresComment := false,
                  duringApproval := false }],
    approval := none, assignment := none, activeStatus := .inProgress, finalStatus := none,
    onEnter := [], onExit := [], onApproved := none, onRejected := none }

def sign : Step :=
  { draft with
    id := "sign", kind := .approval,
    actions := [{ id := "return", name := none, target := "rework", requiredRoles := [],
                  guard := none, autoAssign := true, autoActions := [], requiresComment := false,
                  duringApproval := false }],
    approval := some { levels := [{ approvers := ["ann"], escalateAfter := some 0.0,
                                    policy := some .autoReject }] },
    onApproved := some "return", onRejected := some "return" }

def rework : Step :=
  { draft with
    id := "rework", kind := .task, actions := [],
    assignment := some { id := "again", strategy := .loadBalance, candidates := [{ id := "cleo" }] } }

def workflow : Workflow where
  steps := [draft, sign, rework]
  startId := none
  sound := by decide

/-- A rule that runs on a change to a status. -/
def rule (status : Status) (deed : Deed) : BusinessRule :=
  { id := "follow", name := none, trigger := .onStatusChange, conditions := none,
    actions := [⟨none, deed⟩], priority := 0, active := true, stops := false, watchFields := [],
    fromStatuses := [], toStatuses := [status] }

/-- Claims that are cancelled once they are to be done again. -/
def cancelling : FormTemplate :=
  { id := "claim", workflow := some workflow,
    businessRules := [rule .inProgress (.changeStatus .cancelled)] }

/-- Claims whose approval is escalated as soon as it is asked for. -/
def escalating : FormTemplate :=
  { id := "claim", workflow := some workflow,
    businessRules := [rule .pendingApproval (.escalate none)] }

def noon : Calendar.Instant := ⟨43200000000, Calendar.halfDay_lt_microCount⟩

def claim (state : SubmissionState) : Submission :=
  { id := "S1", submitter := ⟨"u1", none, [], []⟩, state := some state }

def drafted : SubmissionState := { step := "draft", status := .submitted }

def send (t : FormTemplate) : Work Transition :=
  t.execute (claim drafted) "send" {} (.ofNow noon) {} (.ok {})

def approve (t : FormTemplate) (state : SubmissionState) : Work Transition :=
  t.decide (claim state) (.ok ⟨"ann", none, .approve, none⟩) {} (.ofNow noon) (.ok {})

/-- The transitions of a claim that is sent and then approved. -/
def transitions : Option (Transition × Transition) := do
  let sent ← (send cancelling).answer? {}
  let approved ← (approve cancelling sent.state).answer? {}
  pure (sent, approved)

theorem transitions_eq : transitions.map (fun (sent, approved) =>
    (sent.status, sent.step.id, approved.status, approved.step.id)) =
      some (.pendingApproval, "sign", .cancelled, "rework") := by
  decide +kernel

theorem escalatesNothing_cancelling : cancelling.EscalatesNothing := by
  intro r hr _ a ha
  simp only [cancelling, List.mem_singleton] at hr
  subst hr
  simp only [rule, List.mem_singleton] at ha
  subst ha
  decide

theorem read_escalating : (FormTemplate.decoder {} escalating.document {}).1 = .ok escalating := by
  with_unfolding_all rfl

/-- The claim stands where it is to be done again, and not where the transition says. -/
theorem sent_escalating : ((send escalating).answer? {}).map (fun done =>
    (done.step.id, done.state.step)) = some ("sign", "rework") := by
  decide +kernel

end Overdue

namespace FormTemplate

theorem reports_what_happened_cancelled : ∃ sent approved left left',
    (Overdue.send Overdue.cancelling).Returns {} sent left ∧
    (Overdue.approve Overdue.cancelling sent.state).Returns {} approved left' ∧
    (∃ first results, sent.Reports Overdue.workflow first (RuleResult.outcomes results)) ∧
    (∃ first results, approved.Reports Overdue.workflow first (RuleResult.outcomes results)) ∧
    approved.status = .cancelled := by
  obtain ⟨⟨sent, approved⟩, htransitions, hparts⟩ :=
    Option.map_eq_some_iff.mp Overdue.transitions_eq
  simp only [Overdue.transitions, Option.bind_eq_bind, Option.bind_eq_some_iff, Option.pure_def,
    Option.some.injEq, Prod.mk.injEq] at htransitions
  obtain ⟨_, hsent, _, happroved, rfl, rfl⟩ := htransitions
  obtain ⟨left, hsent⟩ := Work.answer?_eq_some hsent
  obtain ⟨left', happroved⟩ := Work.answer?_eq_some happroved
  simp only [Prod.mk.injEq] at hparts
  refine ⟨_, _, left, left', hsent, happroved, ?_, ?_, hparts.2.2.1⟩
  · obtain ⟨r, first, results, -, hworkflow, -, -, -, hreports⟩ :=
      (reports_what_happened Overdue.cancelling (Overdue.claim Overdue.drafted) {}
        (.ofNow Overdue.noon)).1 "send" {} (.ok {}) {} _ left hsent
    have hr : Overdue.workflow = r.workflow := Option.some.inj hworkflow
    exact ⟨first, results, hr ▸ hreports Overdue.escalatesNothing_cancelling⟩
  · obtain ⟨r, first, results, -, hworkflow, -, hreports⟩ :=
      (reports_what_happened Overdue.cancelling (Overdue.claim _) {} (.ofNow Overdue.noon)).2
        (.ok ⟨"ann", none, .approve, none⟩) (.ok {}) {} _ left' happroved
    have hr : Overdue.workflow = r.workflow := Option.some.inj hworkflow
    exact ⟨first, results, hr ▸ hreports⟩

/-- The claim that is escalated is said to be signed while it is to be done again. -/
theorem not_always_reports : ¬ ∀ (host : Host) (t : FormTemplate) (s : Submission)
    (actionId : String) (settings : Settings) (context : Context) (load : Load)
    (note : Except Failure RequestNote) (ids left : Ids) (done : Transition) (w : Workflow),
    (∃ document ids, (FormTemplate.decoder host document ids).1 = .ok t) → t.workflow = some w →
      (t.execute s actionId settings context load note).Returns ids done left →
      done.Describes w := by
  intro hdescribes
  obtain ⟨done, hsent, hparts⟩ := Option.map_eq_some_iff.mp Overdue.sent_escalating
  obtain ⟨left, hsent⟩ := Work.answer?_eq_some hsent
  have hstep := (hdescribes {} Overdue.escalating _ _ _ _ _ _ _ left done Overdue.workflow
    ⟨_, {}, Overdue.read_escalating⟩ rfl hsent).step
  simp only [Prod.mk.injEq] at hparts
  have hrework : Overdue.workflow.step? "rework" = some Overdue.rework := rfl
  rw [hparts.2, hrework, Option.some.injEq] at hstep
  rw [← hstep] at hparts
  exact absurd hparts.1 (by decide)

end FormTemplate
end Formwork
