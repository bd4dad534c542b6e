import Formwork.Automation.Run
import Formwork.Proofs.Assignment.Namesakes
import Formwork.Proofs.Assignment.Priority
import Formwork.Proofs.Workflow.Errands
/-!
# Where a rule is run

A rule is run in three places. A list of rules is asked for the first one that is on, applies and
finds somebody. A step that is entered and an action of a business rule have one rule each, and run
it without asking whether it is on and applies. So whether the rule of a step is run depends on the
way in alone, and whether it chooses somebody on the candidates alone.
-/
namespace Formwork

open SubmissionState

/-! ## Rules -/

namespace AssignmentRule

variable {rules : List AssignmentRule} {load : Load} {context : Context} {chosen : Assignment}

/-- The rule is off, or it is for other contexts. -/
def Idle (r : AssignmentRule) (context : Context) : Prop :=
  r.active = false ∨ Group.holds? r.appliesWhen context = .ok false

/-- None of the candidates of the rule qualifies for it. -/
def FindsNobody (r : AssignmentRule) (load : Load) (context : Context) : Prop :=
  ∀ c ∈ r.candidates, ¬ c.Qualifies r.strategy load context (some r)

theorem assign_eq_none_iff {r : AssignmentRule} (h : r.assign load context = .ok chosen) :
    chosen.assignee = none ↔ r.FindsNobody load context :=
  nobody_chosen_iff h

theorem Idle.not_productive {r : AssignmentRule} (h : r.Idle context) :
    ¬ r.Productive load context := by
  rcases h with inactive | inapplicable
  · exact (Unproductive.off inactive).not_productive
  · exact (Unproductive.idle inapplicable).not_productive

theorem assignByRules_chooses (h : assignByRules rules load context = .ok chosen)
    (found : chosen.assignee ≠ none) :
    ∃ r ∈ rules, ¬ r.Idle context ∧ r.assign load context = .ok chosen := by
  obtain ⟨r, hr, productive, hchosen⟩ := productive_of_assignByRules h found
  exact ⟨r, hr, fun idle => idle.not_productive productive, hchosen⟩

end AssignmentRule

/-! ## On entry -/

/-- The rule that is run when a step is entered. An end step runs none, nor does a way in that does
not assign. -/
def Step.ruleOnEntry (step : Step) (assigns : Bool) : Option AssignmentRule :=
  if assigns && step.kind != .finish then step.assignment else none

theorem Step.assignment_of_ruleOnEntry {step : Step} {assigns : Bool} {r : AssignmentRule}
    (h : step.ruleOnEntry assigns = some r) : step.assignment = some r := by
  unfold ruleOnEntry at h
  split at h
  · exact h
  · cases h

/-- Whether a way in assigns: the last action on it says so, and where there is none, the way in
does what it does from the start. -/
def Hop.assigns (opening : Bool) (hops : List Hop) : Bool :=
  (hops.getLast?.map (·.action.autoAssign)).getD opening

theorem Hop.assigns_cons (opening : Bool) (hop : Hop) (hops : List Hop) :
    Hop.assigns opening (hop :: hops) = Hop.assigns hop.action.autoAssign hops := by
  cases hops with
  | nil => rfl
  | cons next rest =>
    rw [assigns, assigns, List.getLast?_cons_cons, List.getLast?_cons]
    rfl

namespace Surroundings

variable {e : Surroundings} {before after : Option Assignment × Option Assignee}

/-- To whom the choice of a rule assigns a submission. -/
def assigneeBy (e : Surroundings) (r : AssignmentRule) (chosen : Assignment) : Option Assignee :=
  chosen.assignee.map fun c => ⟨c.id, c.name, some e.time, some r.id⟩

/-- What becomes of an assignment and of an assignee where a rule is run: the choice of the rule, and
to whom it assigns. Where none is run both stay. -/
inductive Runs (e : Surroundings) : Option AssignmentRule → Option Assignment × Option Assignee →
    Option Assignment × Option Assignee → Prop
  | none {before : Option Assignment × Option Assignee} : Runs e none before before
  | rule {r : AssignmentRule} {chosen : Assignment} {before : Option Assignment × Option Assignee}
      (returned : r.assign e.load e.context = .ok chosen) :
      Runs e (some r) before (some chosen, e.assigneeBy r chosen)

theorem runs_none_iff : e.Runs Option.none before after ↔ after = before := by
  constructor
  · rintro ⟨⟩
    rfl
  · rintro rfl
    exact .none

theorem runs_some_iff {r : AssignmentRule} : e.Runs (some r) before after ↔
    ∃ chosen, r.assign e.load e.context = .ok chosen ∧
      after = (some chosen, e.assigneeBy r chosen) := by
  constructor
  · intro h
    cases h with
    | rule returned => exact ⟨_, returned, rfl⟩
  · rintro ⟨chosen, returned, rfl⟩
    exact .rule returned

end Surroundings

namespace Journey

variable {e : Surroundings} {j j' j'' : Journey} {step target : Step} {action : StepAction}
  {actor comments : Option String} {ids left : Ids} {rule : Option AssignmentRule}

/-- The outcome of the last assignment, and to whom the submission is assigned. -/
def assigned (j : Journey) : Option Assignment × Option Assignee := (j.assignment, j.state.assignee)

/-- On a part of the way a rule is run, or none is, and then the assignment stays. -/
def Assigns (e : Surroundings) (rule : Option AssignmentRule) (j j' : Journey) : Prop :=
  e.Runs rule j.assigned j'.assigned

theorem Assigns.of_same (hassignment : j'.assignment = j.assignment)
    (hassignee : j'.state.assignee = j.state.assignee) : Assigns e none j j' :=
  Surroundings.runs_none_iff.mpr (Prod.ext hassignment hassignee)

theorem Assigns.same (h : Assigns e none j j') :
    j'.assignment = j.assignment ∧ j'.state.assignee = j.state.assignee :=
  Prod.mk.inj (Surroundings.runs_none_iff.mp h)

theorem Assigns.after (h' : Assigns e rule j' j'') (h : Assigns e none j j') :
    Assigns e rule j j'' := by
  unfold Assigns at h'
  rwa [Surroundings.runs_none_iff.mp h] at h'

theorem perform_assigns {source : String} {c : Context} {actions : List Action}
    (h : (j.perform source c actions).Returns ids j' left) : Assigns e none j j' := by
  rw [perform_same h]
  exact .of_same rfl rfl

theorem arrive_assigns {next : Option StepAction}
    (h : (j.arrive e step actor).Returns ids (j', next) left) : Assigns e none j j' := by
  refine .of_same (by rw [arrive_same h]) ?_
  cases arrive_arrived h with
  | rests rested => rw [rested.same]
  | awaits _ _ _ started => rw [started.same]
  | passes rested _ => rw [rested.same]

theorem leave_assigns (h : (j.leave e step action actor comments).Returns ids (target, j') left) :
    Assigns e none j j' := by
  refine .of_same ?assignment ?assignee
  case assignment =>
    simp only [leave, Work.bind_returns_iff, Work.lift_returns_iff, Work.pure_returns_iff,
      Prod.mk.injEq] at h
    obtain ⟨_, _, -, j₁, _, hexit, j₂, _, hauto, state, _, -, ⟨-, rfl⟩, -⟩ := h
    exact ((perform_assigns (e := e) hauto).after (perform_assigns hexit)).same.1
  case assignee =>
    rw [(leave_left h).2.same]
    rfl

theorem assign_assigns {r : AssignmentRule}
    (h : (j.assign e step r actor).Returns ids j' left) : Assigns e (some r) j j' := by
  simp only [assign, Work.bind_returns_iff, Work.lift_returns_iff] at h
  obtain ⟨chosen, _, ⟨returned, -⟩, h⟩ := h
  refine Surroundings.runs_some_iff.mpr ⟨chosen, returned, ?_⟩
  split at h
  · rename_i hnobody
    obtain ⟨rfl, -⟩ := Work.pure_returns_iff.mp h
    rw [Surroundings.assigneeBy, hnobody]
    rfl
  · rename_i c hc
    simp only [Work.bind_returns_iff, Work.pure_returns_iff] at h
    obtain ⟨state, _, -, rfl, -⟩ := h
    have hrule : chosen.rule = some r.id := (assign_names returned).1
    rw [Surroundings.assigneeBy, hc, assigned, hrule]
    rfl

theorem assignOnEntry_assigns {autoAssign : Bool}
    (h : (j.assignOnEntry e step autoAssign actor).Returns ids j' left) :
    Assigns e (step.ruleOnEntry autoAssign) j j' := by
  have hnone : (pure j : Work Journey).Returns ids j' left → Assigns e none j j' := by
    intro hj
    obtain ⟨rfl, -⟩ := Work.pure_returns_iff.mp hj
    exact .of_same rfl rfl
  unfold assignOnEntry at h
  unfold Step.ruleOnEntry
  split at h
  · rename_i hrule
    rw [hrule, ite_self]
    exact hnone h
  · rename_i r hrule
    split at h
    · rename_i hassigns
      rw [if_pos hassigns, hrule]
      exact assign_assigns h
    · rename_i hforbidden
      rw [if_neg hforbidden]
      exact hnone h

/-- A way ends at a step, and the rule that is run there is the only one that is run. -/
def Settles (e : Surroundings) (opening : Bool) (j j' : Journey) : Prop :=
  ∃ hops last, j.state.Recounts e.workflow [] hops j'.state ∧
    e.workflow.step? j'.state.step = some last ∧
    Assigns e (last.ruleOnEntry (Hop.assigns opening hops)) j j'

theorem Settles.behind (opening : Bool)
    (hleft : (j.leave e step action actor comments).Returns ids (target, j') left)
    (onStep : step ∈ e.workflow.steps) (offered : action ∈ step.actions)
    (h : Settles e action.autoAssign j' j'') : Settles e opening j j'' := by
  obtain ⟨hops, last, htold, hlast, hassigns⟩ := h
  refine ⟨⟨step, action, target⟩ :: hops, last,
    (leave_passes hleft onStep offered).told.trans htold, hlast, ?_⟩
  rw [Hop.assigns_cons]
  exact hassigns.after (leave_assigns hleft)

/-- Of the steps that are entered one after another, only the rule of the last one is run, as the
others are passed. The induction is on the moves that are left. -/
theorem enter_settles {moves : Nat} {autoAssign : Bool}
    (h : (enter e moves step actor autoAssign j).Returns ids j' left)
    (onStep : e.workflow.step? step.id = some step) (here : j.state.step = step.id) :
    Settles e autoAssign j j' := by
  induction moves using Nat.strongRecOn generalizing step actor autoAssign j ids with
  | ind moves ih =>
    obtain ⟨j₁, j₂, next, _, _, hperformed, harrived, hgone⟩ := enter_cases h
    have there : j.state.Recounts e.workflow [] [] j₂.state :=
      (perform_passes (c := e.context) hperformed).told.trans (arrive_arrived harrived).recounts_nil
    have kept : Assigns e none j j₂ := (arrive_assigns harrived).after (perform_assigns hperformed)
    rcases hgone with ⟨-, hassigned⟩ | ⟨action, target, j₃, _, fewer, rfl, rfl, hleft, hentered⟩
    · refine ⟨[], step, there.trans (assignOnEntry_assigned hassigned).recounts_nil, ?_,
        (assignOnEntry_assigns hassigned).after kept⟩
      rw [(assignOnEntry_stays hassigned).step, (arrive_returns harrived).2.1,
        perform_returns hperformed, here, onStep]
    · have offered : action ∈ step.actions := by
        cases arrive_arrived harrived with
        | passes _ offered => exact offered
      obtain ⟨htarget, hmoved, -⟩ := leave_returns hleft
      have later := ih fewer (Nat.lt_succ_self fewer) hentered htarget hmoved
      obtain ⟨hops, last, htold, hlast, hassigns⟩ :=
        later.behind autoAssign hleft (Workflow.mem_of_step? onStep) offered
      exact ⟨hops, last, there.trans htold, hlast, hassigns.after kept⟩

theorem follow_settles {moves : Nat} {opening : Bool}
    (h : (j.follow e moves step action actor comments).Returns ids j' left)
    (onStep : step ∈ e.workflow.steps) (offered : action ∈ step.actions) :
    Settles e opening j j' := by
  simp only [follow, Work.bind_returns_iff] at h
  obtain ⟨⟨target, j₁⟩, _, hleft, hentered⟩ := h
  obtain ⟨htarget, hmoved, -⟩ := leave_returns hleft
  exact (enter_settles hentered htarget hmoved).behind opening hleft onStep offered

theorem Settles.stayed (onStep : e.workflow.step? j.state.step = some step) :
    Settles e false j j :=
  ⟨[], step, .nil_of_same rfl, onStep, .of_same rfl rfl⟩

end Journey

/-! ## Whole calls -/

/-- What a call on a submission does to the assignment. On the way the hops are made; then the rule
of the step where the submission comes to rest is run, unless the way in or the step forbids it. A
submission that has no state before is put on the first step, which assigns. -/
def Transition.Assigns (t : Transition) (e : Surroundings) (before : Option SubmissionState)
    (hops : List Hop) : Prop :=
  e.Runs (t.step.ruleOnEntry (Hop.assigns before.isNone hops)) (none, before.bind (·.assignee))
    (t.assignment, t.assignee)

/-- A call that is carried out: a submission is put on the first step of the workflow, or an
operation is carried out on the state in which it is. -/
inductive Surroundings.Carries (e : Surroundings) : Option SubmissionState → Transition → Prop
  | started {submission : Submission} {ids left : Ids} {t : Transition}
      (returned : (e.start submission).Returns ids t left) : Carries e none t
  | performed {r : WorkflowRequest} {op : Operation} {state : SubmissionState} {ids left : Ids}
      {t : Transition} (within : r.surroundings = e) (onState : r.submission.state = some state)
      (returned : (r.perform op).Returns ids t left) : Carries e (some state) t

theorem Journey.transition_assigns {e : Surroundings} (before : Option SubmissionState)
    {hops : List Hop} {last : Step} {j j' : Journey} {previous : Option String} {t : Transition}
    (h : j'.transition e previous = .ok t) (ends : e.workflow.step? j'.state.step = some last)
    (assigns : Journey.Assigns e (last.ruleOnEntry (Hop.assigns before.isNone hops)) j j')
    (unassigned : j.assignment = none)
    (assigned : j.state.assignee = before.bind (·.assignee)) : t.Assigns e before hops := by
  simp only [transition, Work.except_bind_eq_ok_iff, Workflow.requireStep_eq_ok_iff, ends] at h
  obtain ⟨step, hstep, h⟩ := h
  obtain rfl := Option.some.inj hstep
  simp only [pure, Except.pure, Except.ok.injEq] at h
  subst h
  unfold Journey.Assigns Journey.assigned at assigns
  rwa [unassigned, assigned] at assigns

namespace WorkflowRequest

variable {r : WorkflowRequest} {s u : SubmissionState} {step : Step} {j j' : Journey}
  {t : Transition} {ids left : Ids} {told : List Escalation}

theorem followChain_settles (h : (r.followChain step j).Returns ids j' left)
    (onStep : r.workflow.step? j.state.step = some step) :
    Journey.Settles r.surroundings false j j' := by
  rcases followChain_returns h with ⟨-, rfl, -⟩ | ⟨action, haction, hfollowed⟩
  · exact .stayed onStep
  · exact Journey.follow_settles hfollowed (Workflow.mem_of_step? onStep)
      (mem_of_chainFollowUp? haction)

theorem escalateAll_assigns {escalations : List Escalation} {e : Surroundings}
    (h : (r.escalateAll step escalations j).Returns ids j' left) :
    Journey.Assigns e none j j' := by
  induction escalations generalizing j ids with
  | nil =>
    obtain ⟨rfl, -⟩ := Work.pure_returns_iff.mp h
    exact .of_same rfl rfl
  | cons x rest ih =>
    unfold escalateAll at h
    split at h
    · simp only [Work.bind_returns_iff] at h
      obtain ⟨outcome, _, -, state, _, happlied, made, _, -, h⟩ := h
      have decided := (applyOutcome_decided happlied).same
      exact (ih h).after (.of_same rfl (by rw [decided]))
    · obtain ⟨rfl, -⟩ := Work.pure_returns_iff.mp h
      exact .of_same rfl rfl

theorem finish_assigns (h : (r.finish j' step).Returns ids t left)
    (recounted : s.Recounts r.workflow told [] j.state)
    (kept : Journey.Assigns r.surroundings none { state := s } j)
    (settled : Journey.Settles r.surroundings false j j') :
    ∃ told hops, t.Tells r.workflow s.history told hops ∧
      t.Assigns r.surroundings (some s) hops := by
  obtain ⟨hops, last, htold, hlast, hassigns⟩ := settled
  refine ⟨told, hops, ?_, ?_⟩
  · obtain ⟨events, hevents, hrecount⟩ := recounted.trans htold
    rw [List.append_nil, List.nil_append] at hrecount
    refine ⟨events, ?_, hrecount⟩
    rw [finish_returns h]
    exact hevents
  · unfold finish at h
    rw [Work.lift_returns_iff] at h
    exact Journey.transition_assigns (some s) h.1 hlast hassigns kept.same.1 kept.same.2

theorem perform_assigns {op : Operation} (h : (r.perform op).Returns ids t left)
    (onState : r.submission.state = some s) :
    ∃ told hops, t.Tells r.workflow s.history told hops ∧
      t.Assigns r.surroundings (some s) hops := by
  have hkept : ∀ u : SubmissionState, u.assignee = s.assignee →
      Journey.Assigns r.surroundings none { state := s } { state := u } := by
    intro u hu
    exact .of_same rfl hu
  cases op with
  | execute actionId =>
    simp only [perform, execute, Work.bind_returns_iff, Work.lift_returns_iff] at h
    obtain ⟨⟨state, step, action⟩, _, ⟨hresolved, rfl⟩, j, _, hfollowed, h⟩ := h
    obtain ⟨rfl, -, hstep, offered⟩ := resolve_eq_ok hresolved onState
    exact finish_assigns h (.nil_of_same rfl) (hkept _ rfl)
      (Journey.follow_settles hfollowed (Workflow.mem_of_step? hstep) offered)
  | decide ballot =>
    simp only [perform, decide, Work.bind_returns_iff, Work.lift_returns_iff,
      requireState_of onState, Except.ok.injEq, Workflow.requireStep_eq_ok_iff] at h
    obtain ⟨state, _, ⟨rfl, -⟩, step, _, ⟨hstep, -⟩, _, _, -, _, _, -, outcome, _, -, next, _,
      happlied, j, _, hfollowed, h⟩ := h
    have decided := applyOutcome_decided happlied
    have onStep : r.workflow.step? next.step = some step := by rw [decided.step, hstep]
    exact finish_assigns h (decided.recounts_nil (by simp) (by simp))
      (hkept next (by rw [decided.same])) (followChain_settles hfollowed onStep)
  | terminate status reason =>
    simp only [perform, terminate, Work.bind_returns_iff, Work.lift_returns_iff,
      requireState_of onState] at h
    obtain ⟨status', _, -, h⟩ := h
    split at h
    · simp [Work.bind_returns_iff] at h
    · simp only [Work.bind_returns_iff, Work.lift_returns_iff, Except.ok.injEq,
        Workflow.requireStep_eq_ok_iff] at h
      obtain ⟨state, _, ⟨rfl, -⟩, _, _, -, _, _, -, step, _, ⟨hstep, -⟩, ended, _, hnoted, h⟩ := h
      have ends := note_notes hnoted
      have onStep : r.workflow.step? ended.step = some step := by
        rw [ends.same]
        exact hstep
      exact finish_assigns h (ends.recounts_nil (by simp) (by simp))
        (hkept ended (by rw [ends.same]; rfl)) (.stayed onStep)
  | escalate escalations =>
    simp only [perform, escalate, Work.bind_returns_iff, Work.lift_returns_iff,
      requireState_of onState, Except.ok.injEq, Workflow.requireStep_eq_ok_iff] at h
    obtain ⟨state, _, ⟨rfl, rfl⟩, _, _, ⟨-, rfl⟩, step, _, ⟨hstep, rfl⟩, j, _, hescalated, j', _,
      hfollowed, h⟩ := h
    obtain ⟨told, -, hrecounts, -⟩ := escalateAll_tells hescalated
    have onStep : r.workflow.step? j.state.step = some step := by
      rw [(escalateAll_returns hescalated).1, hstep]
    exact finish_assigns h hrecounts (escalateAll_assigns hescalated)
      (followChain_settles hfollowed onStep)

end WorkflowRequest

theorem Surroundings.start_assigns {e : Surroundings} {submission : Submission} {ids left : Ids}
    {t : Transition} (h : (e.start submission).Returns ids t left) :
    ∃ hops, t.Tells e.workflow [] [] hops ∧ t.Assigns e none hops := by
  simp only [start, Work.bind_returns_iff, Work.lift_returns_iff] at h
  obtain ⟨noted, _, hnoted, j, _, hentered, htransition, -⟩ := h
  have started := note_notes hnoted
  have here : noted.step = e.workflow.start.id := by rw [started.same]
  obtain ⟨hops, last, htold, hlast, hassigns⟩ :=
    Journey.enter_settles hentered e.workflow.step?_start here
  obtain ⟨events, hevents, hrecount⟩ :=
    (started.recounts_nil (w := e.workflow) (by simp) (by simp)).trans htold
  refine ⟨hops, ⟨events, ?_, hrecount⟩, ?_⟩
  · rw [Journey.transition_eq_ok htransition]
    exact hevents
  · exact Journey.transition_assigns none htransition hlast hassigns rfl
      (by rw [started.same]; rfl)

theorem Surroundings.Carries.assigns {e : Surroundings} {before : Option SubmissionState}
    {t : Transition} (carried : e.Carries before t) :
    ∃ told hops, t.Tells e.workflow ((before.map (·.history)).getD []) told hops ∧
      t.Assigns e before hops := by
  cases carried with
  | started returned =>
    obtain ⟨hops, htells, hassigns⟩ := start_assigns returned
    exact ⟨[], hops, htells, hassigns⟩
  | performed within onState returned =>
    subst within
    exact WorkflowRequest.perform_assigns returned onState

/-- An idle rule chooses nobody on entry exactly if it is not run or finds nobody. -/
theorem Transition.Assigns.idle_iff {t : Transition} {e : Surroundings}
    {before : Option SubmissionState} {hops : List Hop} (assigns : t.Assigns e before hops) :
    (∀ r, t.step.assignment = some r → r.Idle e.context →
        t.assignment.bind (·.assignee) = none) ↔
      ∀ r, t.step.ruleOnEntry (Hop.assigns before.isNone hops) = some r → r.Idle e.context →
        r.FindsNobody e.load e.context := by
  unfold Transition.Assigns at assigns
  constructor
  · intro h r hrun idle
    have hnobody := h r (Step.assignment_of_ruleOnEntry hrun) idle
    rw [hrun, Surroundings.runs_some_iff] at assigns
    obtain ⟨chosen, returned, hassigned⟩ := assigns
    rw [(Prod.mk.inj hassigned).1, Option.bind_some] at hnobody
    exact (AssignmentRule.assign_eq_none_iff returned).mp hnobody
  · intro h r hrule idle
    cases hrun : t.step.ruleOnEntry (Hop.assigns before.isNone hops) with
    | none =>
      rw [hrun, Surroundings.runs_none_iff] at assigns
      rw [(Prod.mk.inj assigns).1, Option.bind_none]
    | some s =>
      obtain rfl : s = r := by
        rw [Step.assignment_of_ruleOnEntry hrun] at hrule
        exact Option.some.inj hrule
      rw [hrun, Surroundings.runs_some_iff] at assigns
      obtain ⟨chosen, returned, hassigned⟩ := assigns
      rw [(Prod.mk.inj hassigned).1, Option.bind_some]
      exact (AssignmentRule.assign_eq_none_iff returned).mpr (h s hrun idle)

theorem Stage.act_assigns {s : Stage} {settings : Settings} {business : BusinessRule} {a : Action}
    {rule : AssignmentRule} {ids left : Ids} {o : ActionOutcome} (hdeed : a.deed = .assign rule)
    (h : (s.act settings business a).Returns ids o left) :
    ∃ chosen, rule.assign ((s.workflow.map (·.load)).getD {}) s.context = .ok chosen ∧
      o.assignment = some chosen := by
  unfold act at h
  simp only [hdeed, Work.bind_returns_iff, Work.lift_returns_iff, Work.pure_returns_iff] at h
  obtain ⟨chosen, _, ⟨returned, -⟩, rfl, -⟩ := h
  exact ⟨chosen, returned, rfl⟩

namespace AssignmentRule

/-- Where one rule is run it is not asked whether it is idle. A call on a submission runs the rule of
the step where the submission comes to rest, unless the way in or the step forbids it; so an idle rule
has chosen nobody there exactly if it was not run, or none of its candidates qualifies. An action of a
business rule runs its own rule, and for this one the same holds. Out of a list, nobody is chosen by
an idle rule. -/
theorem run_unasked {e : Surroundings} {before : Option SubmissionState} {t : Transition}
    (carried : e.Carries before t) :
    (∃ told hops, t.Tells e.workflow ((before.map (·.history)).getD []) told hops ∧
      t.Assigns e before hops ∧
      ((∀ r, t.step.assignment = some r → r.Idle e.context →
          t.assignment.bind (·.assignee) = none) ↔
        ∀ r, t.step.ruleOnEntry (Hop.assigns before.isNone hops) = some r → r.Idle e.context →
          r.FindsNobody e.load e.context)) ∧
    (∀ (s : Stage) (settings : Settings) (business : BusinessRule) (a : Action)
      (r : AssignmentRule) (ids left : Ids) (o : ActionOutcome), a.deed = .assign r →
      (s.act settings business a).Returns ids o left →
      (∃ chosen, r.assign ((s.workflow.map (·.load)).getD {}) s.context = .ok chosen ∧
        o.assignment = some chosen) ∧
      (o.assignment.bind (·.assignee) = none ↔
        r.FindsNobody ((s.workflow.map (·.load)).getD {}) s.context)) ∧
    ∀ (rules : List AssignmentRule) (load : Load) (context : Context) (chosen : Assignment),
      assignByRules rules load context = .ok chosen → chosen.assignee ≠ none →
      ∃ r ∈ rules, ¬ r.Idle context ∧ r.assign load context = .ok chosen := by
  refine ⟨?entered, ?acted, fun _ _ _ _ => assignByRules_chooses⟩
  case entered =>
    obtain ⟨told, hops, htells, hassigns⟩ := carried.assigns
    exact ⟨told, hops, htells, hassigns, hassigns.idle_iff⟩
  case acted =>
    intro s settings business a r ids left o hdeed h
    obtain ⟨chosen, returned, hassigned⟩ := Stage.act_assigns hdeed h
    refine ⟨⟨chosen, returned, hassigned⟩, ?_⟩
    rw [hassigned, Option.bind_some]
    exact assign_eq_none_iff returned

end AssignmentRule

/-! A desk whose rule is switched off. -/

namespace Standby

def rule : AssignmentRule :=
  { id := "standby", strategy := .loadBalance, candidates := [{ id := "eve" }], active := false }

def desk : Step := { Release.work with id := "desk", assignment := some rule }

def workflow : Workflow where
  steps := [desk]
  startId := some "desk"
  sound := by decide

def surroundings : Surroundings := ⟨workflow, .ofNow Release.noon, {}, none⟩

def started : Option Transition :=
  (surroundings.start (Release.submission none)).answer? {}

theorem started_eq : started.map (fun t => (t.step.assignment.map (·.active),
    (t.assignment.bind (·.assignee)).map (·.id))) = some (some false, some "eve") := by
  decide +kernel

theorem carried : ∃ t r, surroundings.Carries none t ∧ t.step.assignment = some r ∧
    r.Idle surroundings.context ∧ (t.assignment.bind (·.assignee)).map (·.id) = some "eve" := by
  obtain ⟨t, hstarted, hparts⟩ := Option.map_eq_some_iff.mp started_eq
  obtain ⟨_, returned⟩ := Work.answer?_eq_some hstarted
  rw [Prod.mk.injEq] at hparts
  obtain ⟨r, hr, hoff⟩ := Option.map_eq_some_iff.mp hparts.1
  exact ⟨t, r, .started returned, hr, .inl hoff, hparts.2⟩

end Standby

namespace AssignmentRule

open Standby in
/-- Entering the desk runs the rule, and Eve qualifies for it; out of a list that holds the rule
alone, nobody is chosen. -/
theorem run_unasked_standby : ∃ t r, surroundings.Carries none t ∧ t.step.assignment = some r ∧
    r.Idle surroundings.context ∧
    ¬ r.FindsNobody surroundings.load surroundings.context ∧
    ∀ chosen, assignByRules [r] surroundings.load surroundings.context = .ok chosen →
      chosen.assignee = none := by
  obtain ⟨t, r, hcarried, hrule, idle, heve⟩ := carried
  obtain ⟨⟨_, hops, -, -, hmeets⟩, -, hlist⟩ := run_unasked hcarried
  refine ⟨t, r, hcarried, hrule, idle, ?finds, ?skipped⟩
  case finds =>
    intro hnobody
    have hsame : ∀ s, t.step.assignment = some s → r = s := by
      intro s hs
      exact Option.some.inj (hrule.symm.trans hs)
    have hnone := hmeets.mpr (fun s hrun _ =>
      hsame s (Step.assignment_of_ruleOnEntry hrun) ▸ hnobody) r hrule idle
    rw [hnone] at heve
    cases heve
  case skipped =>
    intro chosen hchosen
    by_contra hsomebody
    obtain ⟨s, hs, hidle, -⟩ := hlist [r] _ _ chosen hchosen hsomebody
    rw [List.mem_singleton.mp hs] at hidle
    exact hidle idle

/-- Somebody can be chosen by a rule that is switched off. -/
theorem not_always_asked : ¬ ∀ (e : Surroundings) (before : Option SubmissionState)
    (t : Transition) (r : AssignmentRule), e.Carries before t → t.step.assignment = some r →
    r.Idle e.context → t.assignment.bind (·.assignee) = none := by
  intro always
  obtain ⟨t, r, hcarried, hrule, idle, heve⟩ := Standby.carried
  rw [always _ none t r hcarried hrule idle] at heve
  cases heve

end AssignmentRule
end Formwork
