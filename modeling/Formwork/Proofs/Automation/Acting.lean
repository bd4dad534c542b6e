import Formwork.Automation.Run
import Formwork.Proofs.Lifecycle.Effects
import Formwork.Proofs.Work
/-!
# What rules bring about

Rules run action by action, each action on what the ones before it left behind. An action makes no
transition at all, or ends the submission where it stands, or feeds escalations back into a pending
chain; only the last of these asks for anything or moves the submission to another step.
-/
namespace Formwork

open Document

/-- How it is told of an action that it failed. -/
def ActionOutcome.failed (a : Action) (failure : Failure) : ActionOutcome :=
  { id := a.id, kind := a.kind, success := false,
    error := some (Stage.failureText a.kind failure) }

/-- What is told of a rule whose actions came to these outcomes. -/
def RuleResult.of (rule : BusinessRule) (trigger : Trigger) (outcomes : List ActionOutcome) :
    RuleResult :=
  let error := (outcomes.find? fun o => !o.success).bind (·.error)
  { rule := rule.id, trigger := trigger, success := error.isNone, error := error,
    errorCode := error.map fun _ => Refusal.Kind.ruleExecution.code, actions := outcomes }

/-- Rules up to the first that lets none run after it. -/
def BusinessRule.upToStop : List BusinessRule → List BusinessRule
  | [] => []
  | r :: rest => if r.stops then [r] else r :: upToStop rest

theorem BusinessRule.upToStop_subset (rules : List BusinessRule) : upToStop rules ⊆ rules := by
  induction rules with
  | nil => exact List.Subset.refl _
  | cons r rest ih =>
    rw [upToStop]
    split
    · exact List.cons_subset_cons r (List.nil_subset rest)
    · exact List.cons_subset_cons r ih

/-- The submission on a stage. -/
def Stage.state? (s : Stage) : Option SubmissionState := s.workflow.bind (·.submission.state)

/-- What an outcome can bring about on a stage. -/
inductive Stage.Brings (s : Stage) (o : ActionOutcome) : Prop
  | nothing (still : o.transition = none) (quiet : o.escalations = [])
  | ended {state : SubmissionState} {t : Transition} (on : s.state? = some state)
      (made : o.transition = some t) (ends : t.Ends state) (quiet : o.escalations = [])
  | escalated {state : SubmissionState} {t : Transition} (on : s.state? = some state)
      (pending : state.status = .pendingApproval) (made : o.transition = some t)
      (tells : ∃ i ∈ t.instructions, i.kind = .escalate) (loud : o.escalations ≠ [])

namespace Stage

variable {s s' s'' : Stage} {settings : Settings} {rule : BusinessRule} {a : Action}
  {o : ActionOutcome} {ids left : Ids}

/-! ## One action -/

theorem requireWorkflow_eq_ok {kind : ActionKind} {w : WorkflowRequest} {state : SubmissionState}
    (h : s.requireWorkflow kind = .ok (w, state)) :
    s.state? = some state ∧ w.submission.state = some state := by
  unfold requireWorkflow at h
  split at h
  · rename_i found hfound
    simp only [Except.ok.injEq] at h
    subst h
    obtain ⟨w', hw, hmap⟩ := Option.bind_eq_some_iff.mp hfound
    obtain ⟨state', hstate, hpair⟩ := Option.map_eq_some_iff.mp hmap
    simp only [Prod.mk.injEq] at hpair
    obtain ⟨rfl, rfl⟩ := hpair
    exact ⟨by rw [state?, hw, Option.bind_some, hstate], hstate⟩
  · cases h

/-- What an action of a rule comes to on a stage: it leaves the workflow alone, or ends the
submission where it stands, or escalates what is due. -/
inductive Comes (s : Stage) (rule : BusinessRule) (a : Action) : ActionOutcome → Prop
  | aside {update : Option Update} {assignment : Option Assignment} {made : Option Instruction}
      (other : a.kind ≠ .changeStatus) (plain : ∀ i, made = some i → i.kind ≠ .escalate) :
      Comes s rule a { id := a.id, kind := a.kind, instruction := made, update := update,
                       assignment := assignment }
  | ended {w : WorkflowRequest} {state : SubmissionState} {status : Status} {t : Transition}
      {ids left : Ids} (on : s.state? = some state) (onState : w.submission.state = some state)
      (returned : (w.terminate (ofNamed status) (.text rule.source)).Returns ids t left) :
      Comes s rule a { id := a.id, kind := a.kind, transition := some t }
  | escalated {w : WorkflowRequest} {state : SubmissionState} {first : Escalation}
      {rest : List Escalation} {t : Transition} {ids left : Ids} (kind : a.kind = .escalate)
      (on : s.state? = some state) (onState : w.submission.state = some state)
      (pending : state.status = .pendingApproval)
      (returned : (w.escalate (first :: rest)).Returns ids t left) :
      Comes s rule a { id := a.id, kind := a.kind, transition := some t,
                       escalations := first :: rest }

theorem escalate_comes (kind : a.kind = .escalate)
    (h : (s.escalate settings { id := a.id, kind := a.kind }).Returns ids o left) :
    s.Comes rule a o := by
  have idle : s.Comes rule a { id := a.id, kind := a.kind } :=
    .aside (by rw [kind]; decide) fun i hi => by cases hi
  simp only [escalate, Work.bind_returns_iff, Work.lift_returns_iff] at h
  obtain ⟨⟨w, state⟩, _, ⟨hrequired, rfl⟩, h⟩ := h
  obtain ⟨on, onState⟩ := requireWorkflow_eq_ok hrequired
  split at h
  · obtain ⟨rfl, -⟩ := Work.pure_returns_iff.mp h
    exact idle
  · rename_i hpending
    have pending : state.status = .pendingApproval := by simpa using hpending
    simp only [Work.bind_returns_iff, Work.lift_returns_iff] at h
    obtain ⟨found, _, -, h⟩ := h
    cases found with
    | nil =>
      simp only [List.isEmpty_nil, ↓reduceIte, Work.pure_returns_iff] at h
      obtain ⟨rfl, -⟩ := h
      exact idle
    | cons first rest =>
      simp only [List.isEmpty_cons, Bool.false_eq_true, ↓reduceIte, Work.bind_returns_iff,
        Work.pure_returns_iff] at h
      obtain ⟨t, _, returned, rfl, -⟩ := h
      let r : WorkflowRequest := { w with context := { w.context with now := s.context.now } }
      have onRequest : r.submission.state = some state := onState
      exact .escalated kind on onRequest pending returned

theorem act_comes (h : (s.act settings rule a).Returns ids o left) : s.Comes rule a o := by
  unfold act at h
  cases hdeed : a.deed with
  | setField _ _ | assign _ =>
    simp only [hdeed, Work.bind_returns_iff, Work.lift_returns_iff, Work.pure_returns_iff] at h
    obtain ⟨_, _, -, rfl, -⟩ := h
    exact .aside (by simp [Action.kind, hdeed]) fun i hi => by cases hi
  | notify _ | createTask _ | callWebhook _ =>
    simp only [hdeed, Work.bind_returns_iff, Work.pure_returns_iff] at h
    obtain ⟨made, _, hmade, rfl, -⟩ := h
    have plain : ∀ i, made = some i → i.kind ≠ .escalate := fun i hi => a.instruction_kind hmade hi
    exact .aside (by simp [Action.kind, hdeed]) plain
  | changeStatus status =>
    simp only [hdeed, Work.bind_returns_iff, Work.lift_returns_iff, Work.pure_returns_iff] at h
    obtain ⟨⟨w, state⟩, _, ⟨hrequired, rfl⟩, t, _, returned, rfl, -⟩ := h
    obtain ⟨on, onState⟩ := requireWorkflow_eq_ok hrequired
    exact .ended on onState returned
  | escalate reason =>
    simp only [hdeed] at h
    exact escalate_comes (by simp [Action.kind, hdeed]) h

theorem act_brings (h : (s.act settings rule a).Returns ids o left) :
    s.Brings o ∧ (∀ i, o.instruction = some i → i.kind ≠ .escalate) ∧
      (a.kind ≠ .escalate → o.escalations = []) := by
  cases act_comes h with
  | aside _ plain => exact ⟨.nothing rfl rfl, plain, fun _ => rfl⟩
  | ended on onState returned =>
    have ends := WorkflowRequest.terminate_ends returned onState
    refine ⟨.ended on rfl ends rfl, fun i hi => ?_, fun _ => rfl⟩
    cases hi
  | escalated kind on onState pending returned =>
    have tells := WorkflowRequest.escalate_tells returned onState pending
    refine ⟨.escalated on pending rfl tells (List.cons_ne_nil _ _), fun i hi => ?_,
      fun other => absurd kind other⟩
    cases hi

theorem act_success (h : (s.act settings rule a).Returns ids o left) :
    o.success = true ∧ o.id = a.id ∧ o.kind = a.kind := by
  cases act_comes h with
  | aside _ _ | ended _ _ _ | escalated _ _ _ _ _ => exact ⟨rfl, rfl, rfl⟩

/-! ## One after another -/

theorem after_state?_of_none (h : o.transition = none) : (s.after o).state? = s.state? := by
  unfold after state?
  rw [h]
  cases o.update <;> rfl

theorem after_state?_of_some {state : SubmissionState} {t : Transition} (h : o.transition = some t)
    (on : s.state? = some state) : (s.after o).state? = some t.state := by
  obtain ⟨w, hw, -⟩ := Option.bind_eq_some_iff.mp on
  unfold after
  cases o.update with
  | none =>
    simp only [h, hw]
    rfl
  | some u =>
    simp only [h, hw]
    rfl

/-- The outcomes of actions of some rules, each on the stage that the ones before it left. -/
inductive Acts (settings : Settings) (rules : List BusinessRule) :
    Stage → List ActionOutcome → Stage → Prop
  | done {s : Stage} : Acts settings rules s [] s
  | acted {s s' : Stage} {rule : BusinessRule} {a : Action} {o : ActionOutcome} {ids left : Ids}
      {later : List ActionOutcome} (runs : rule ∈ rules) (member : a ∈ rule.actions)
      (returned : (s.act settings rule a).Returns ids o left)
      (goesOn : Acts settings rules (s.after o) later s') : Acts settings rules s (o :: later) s'
  | failed {s s' : Stage} {a : Action} {failure : Failure} {later : List ActionOutcome}
      (goesOn : Acts settings rules s later s') : Acts settings rules s
        ({ id := a.id, kind := a.kind, success := false,
           error := some (failureText a.kind failure) } :: later) s'

variable {rules : List BusinessRule} {outcomes later : List ActionOutcome}

theorem Acts.append (h : Acts settings rules s outcomes s')
    (h' : Acts settings rules s' later s'') : Acts settings rules s (outcomes ++ later) s'' := by
  induction h with
  | done => exact h'
  | acted runs member returned _ ih => exact .acted runs member returned (ih h')
  | failed _ ih => exact .failed (ih h')

/-- Actions of a rule are carried out one after another, each on the stage that the one before it
left, up to the first that fails, and each has its outcome. -/
inductive Works (settings : Settings) (rule : BusinessRule) :
    Stage → List Action → List ActionOutcome → Stage → Prop
  | done {s : Stage} : Works settings rule s [] [] s
  | acted {s s' : Stage} {a : Action} {rest : List Action} {o : ActionOutcome}
      {later : List ActionOutcome} {ids left : Ids}
      (returned : (s.act settings rule a).Returns ids o left)
      (goesOn : Works settings rule (s.after o) rest later s') :
      Works settings rule s (a :: rest) (o :: later) s'
  | failed {s : Stage} {a : Action} {rest : List Action} {failure : Failure} {ids : Ids}
      (fails : (s.act settings rule a).Fails ids failure) :
      Works settings rule s (a :: rest) [.failed a failure] s

theorem actAll_works {actions : List Action}
    (h : actAll settings rule actions s ids = ((outcomes, s'), left)) :
    Works settings rule s actions outcomes s' := by
  induction actions generalizing s ids outcomes with
  | nil =>
    cases h
    exact .done
  | cons a rest ih =>
    have hcons : actAll settings rule (a :: rest) s ids =
        match (s.act settings rule a).outcome ids with
        | (.error failure, between) => (([.failed a failure], s), between)
        | (.ok o, between) =>
          let result := actAll settings rule rest (s.after o) between
          ((o :: result.1.1, result.1.2), result.2) := by
      simp only [actAll, bind, StateT.bind, ExceptT.run, Work.outcome]
      rcases s.act settings rule a ids with ⟨_ | o, between⟩ <;> rfl
    rw [hcons] at h
    rcases houtcome : (s.act settings rule a).outcome ids with ⟨failure | o, between⟩
    · have hfails : (s.act settings rule a).Fails ids failure := congrArg Prod.fst houtcome
      rw [houtcome] at h
      cases h
      exact .failed hfails
    · rw [houtcome] at h
      rcases hlater : actAll settings rule rest (s.after o) between with ⟨⟨later, s''⟩, left'⟩
      simp only [hlater] at h
      cases h
      exact .acted houtcome (ih hlater)

theorem Works.acts (runs : rule ∈ rules) {actions : List Action} (own : actions ⊆ rule.actions)
    (h : Works settings rule s actions outcomes s') : Acts settings rules s outcomes s' := by
  induction h with
  | done => exact .done
  | @acted _ _ a _ _ _ _ _ returned _ ih =>
    exact .acted runs (own List.mem_cons_self) returned
      (ih fun b hb => own (List.mem_cons_of_mem a hb))
  | failed _ => exact .failed .done

/-- Rules run one after another, each on the stage that the one before it left. -/
inductive Runs (settings : Settings) (trigger : Trigger) :
    Stage → List BusinessRule → List RuleResult → Stage → Prop
  | done {s : Stage} : Runs settings trigger s [] [] s
  | ran {s s' s'' : Stage} {rule : BusinessRule} {rest : List BusinessRule}
      {outcomes : List ActionOutcome} {results : List RuleResult}
      (works : Works settings rule s rule.actions outcomes s')
      (goesOn : Runs settings trigger s' rest results s'') :
      Runs settings trigger s (rule :: rest) (.of rule trigger outcomes :: results) s''

theorem run_works {trigger : Trigger} {result : RuleResult}
    (h : s.run settings trigger rule ids = ((result, s'), left)) :
    ∃ outcomes, result = .of rule trigger outcomes ∧
      Works settings rule s rule.actions outcomes s' := by
  rcases hacted : actAll settings rule rule.actions s ids with ⟨⟨outcomes, s''⟩, left'⟩
  simp only [run, bind, StateT.bind, hacted] at h
  cases h
  exact ⟨outcomes, rfl, actAll_works hacted⟩

theorem runAll_runs {trigger : Trigger} {selected : List BusinessRule} {results : List RuleResult}
    (h : runAll settings trigger selected s ids = (results, left)) :
    ∃ s', Runs settings trigger s (BusinessRule.upToStop selected) results s' := by
  induction selected generalizing s ids results with
  | nil =>
    cases h
    exact ⟨s, .done⟩
  | cons rule rest ih =>
    rcases hran : s.run settings trigger rule ids with ⟨⟨result, s''⟩, between⟩
    obtain ⟨outcomes, rfl, hworks⟩ := run_works hran
    simp only [runAll, bind, StateT.bind, hran] at h
    by_cases hstops : rule.stops = true
    · simp only [hstops, ↓reduceIte] at h
      cases h
      rw [BusinessRule.upToStop, if_pos hstops]
      exact ⟨s'', .ran hworks .done⟩
    · simp only [hstops] at h
      rcases hlater : runAll settings trigger rest s'' between with ⟨later, left'⟩
      simp only [Bool.false_eq_true, ↓reduceIte, StateT.bind, hlater] at h
      cases h
      obtain ⟨s', hruns⟩ := ih hlater
      rw [BusinessRule.upToStop, if_neg hstops]
      exact ⟨s', .ran hworks hruns⟩

theorem Runs.acts {trigger : Trigger} {running : List BusinessRule} {results : List RuleResult}
    (own : running ⊆ rules) (h : Runs settings trigger s running results s') :
    Acts settings rules s (results.flatMap (·.actions)) s' := by
  induction h with
  | done => exact .done
  | ran works _ ih =>
    have hfirst := works.acts (own List.mem_cons_self) (List.Subset.refl _)
    exact hfirst.append (ih fun b hb => own (List.mem_cons_of_mem _ hb))

/-! ## What all the outcomes are like -/

namespace Acts

variable {state : SubmissionState}

/-- No outcome has an instruction of its own that tells of an escalation; those that escalated
something have a transition that tells of it. -/
theorem tells (h : Acts settings rules s outcomes s') : ∀ o ∈ outcomes,
    (∀ i, o.instruction = some i → i.kind ≠ .escalate) ∧ (o.escalations ≠ [] →
      ∃ t, o.transition = some t ∧ ∃ i ∈ t.instructions, i.kind = .escalate) := by
  induction h with
  | done =>
    intro o ho
    cases ho
  | acted _ _ returned _ ih =>
    obtain ⟨hbrings, hplain, -⟩ := act_brings returned
    refine List.forall_mem_cons.mpr ⟨⟨hplain, fun hescalated => ?_⟩, ih⟩
    cases hbrings with
    | nothing _ quiet => exact absurd quiet hescalated
    | ended _ _ _ quiet => exact absurd quiet hescalated
    | escalated _ _ made tells => exact ⟨_, made, tells⟩
  | failed _ ih =>
    refine List.forall_mem_cons.mpr ⟨⟨fun i hi => ?_, fun hescalated => absurd rfl hescalated⟩, ih⟩
    cases hi

theorem quiet_of_no_escalate (h : Acts settings rules s outcomes s')
    (none : ∀ rule ∈ rules, ∀ a ∈ rule.actions, a.kind ≠ .escalate) :
    ∀ o ∈ outcomes, o.escalations = [] := by
  induction h with
  | done =>
    intro o ho
    cases ho
  | acted runs member returned _ ih =>
    exact List.forall_mem_cons.mpr ⟨(act_brings returned).2.2 (none _ runs _ member), ih⟩
  | failed _ ih => exact List.forall_mem_cons.mpr ⟨rfl, ih⟩

/-- Where no approval is awaited nothing is escalated: what ends the submission leaves none to
await. -/
theorem quiet_of_not_pending (h : Acts settings rules s outcomes s') (on : s.state? = some state)
    (settled : state.status ≠ .pendingApproval) : ∀ o ∈ outcomes, o.escalations = [] := by
  induction h generalizing state with
  | done =>
    intro o ho
    cases ho
  | acted _ _ returned _ ih =>
    cases (act_brings returned).1 with
    | nothing still quiet =>
      exact List.forall_mem_cons.mpr ⟨quiet, ih ((after_state?_of_none still).trans on) settled⟩
    | @ended _ t on' made ends quiet =>
      have hsettled : t.state.status ≠ .pendingApproval := by
        intro hpending
        have hfinal := ends.final
        rw [hpending] at hfinal
        cases hfinal
      exact List.forall_mem_cons.mpr ⟨quiet, ih (after_state?_of_some made on) hsettled⟩
    | escalated on' pending =>
      rw [on, Option.some.injEq] at on'
      subst on'
      exact absurd pending settled
  | failed _ ih => exact List.forall_mem_cons.mpr ⟨rfl, ih on settled⟩

/-- As long as nothing is escalated, the submission stays on its step and with its assignee, and
no transition asks for anything. -/
theorem ends_of_quiet (h : Acts settings rules s outcomes s') (on : s.state? = some state)
    (quiet : ∀ o ∈ outcomes, o.escalations = []) :
    ∀ o ∈ outcomes, ∀ t, o.transition = some t → t.Ends state := by
  induction h generalizing state with
  | done =>
    intro o ho
    cases ho
  | acted _ _ returned _ ih =>
    obtain ⟨hquiet, hlater⟩ := List.forall_mem_cons.mp quiet
    cases (act_brings returned).1 with
    | nothing still =>
      refine List.forall_mem_cons.mpr ⟨fun t ht => ?_,
        ih ((after_state?_of_none still).trans on) hlater⟩
      rw [still] at ht
      cases ht
    | @ended _ t on' made ends =>
      rw [on, Option.some.injEq] at on'
      subst on'
      refine List.forall_mem_cons.mpr ⟨fun t' ht => ?_, fun o ho t' ht => ?_⟩
      · rw [made, Option.some.injEq] at ht
        exact ht ▸ ends
      · exact (ih (after_state?_of_some made on) hlater o ho t' ht).trans ends
    | escalated _ _ _ _ loud => exact absurd hquiet loud
  | failed _ ih =>
    refine List.forall_mem_cons.mpr ⟨fun t ht => ?_, ih on (List.forall_mem_cons.mp quiet).2⟩
    cases ht

end Acts
end Stage

/-! ## The rules that an event calls for -/

namespace BusinessRule

variable {trigger : Trigger} {event : TriggerEvent} {context : Context} {settings : Settings}
  {stage : Stage} {rules selected : List BusinessRule} {results : List RuleResult} {ids left : Ids}

/-- Whether a rule is one of those that run. -/
def called (trigger : Trigger) (event : TriggerEvent) (context : Context) (r : BusinessRule) :
    Bool :=
  Work.affirmed (r.runs trigger event context)

/-- The rules that run can be told if and only if it can be told of each rule whether it does. -/
theorem select_eq_ok_iff : select rules trigger event context = .ok selected ↔
    (∀ r ∈ rules, ∃ b, r.runs trigger event context = .ok b) ∧
      selected = (rules.filter (called trigger event context)).mergeSort
        fun a b => decide (b.priority ≤ a.priority) := by
  have hsifted : ∀ running, BusinessRule.running trigger event context rules = .ok running ↔
      (∀ r ∈ rules, ∃ b, r.runs trigger event context = .ok b) ∧
        running = rules.filter (called trigger event context) := fun _ =>
    Work.sift_eq_ok_iff (·.runs trigger event context) (running trigger event context) rfl
      fun _ _ => rfl
  rw [select, Work.except_bind_eq_ok_iff]
  simp only [hsifted, pure, Except.pure, Except.ok.injEq]
  constructor
  · rintro ⟨_, ⟨hall, rfl⟩, rfl⟩
    exact ⟨hall, rfl⟩
  · rintro ⟨hall, rfl⟩
    exact ⟨_, ⟨hall, rfl⟩, rfl⟩

theorem trigger_of_called {r : BusinessRule} (h : called trigger event context r = true) :
    r.trigger = trigger := by
  rw [called, Work.affirmed_iff] at h
  unfold runs at h
  split at h
  · rename_i hcalled
    simp only [Bool.and_eq_true, decide_eq_true_eq] at hcalled
    exact hcalled.1.2
  · cases h

/-- What comes of an event comes of the rules that are chosen for it, one after another. -/
theorem evaluate_runs (h : (evaluate rules trigger event settings stage).Returns ids results left) :
    ∃ selected s', select rules trigger event stage.context = .ok selected ∧
      Stage.Runs settings trigger stage (upToStop selected) results s' := by
  simp only [evaluate, Work.bind_returns_iff, Work.lift_returns_iff] at h
  obtain ⟨selected, _, ⟨hselected, rfl⟩, h⟩ := h
  obtain ⟨s', hruns⟩ := Stage.runAll_runs (Work.state_returns_iff.mp h)
  exact ⟨selected, s', hselected, hruns⟩

theorem evaluate_acts (h : (evaluate rules trigger event settings stage).Returns ids results left) :
    ∃ s', Stage.Acts settings (rules.filter (·.trigger = trigger)) stage
      (results.flatMap (·.actions)) s' := by
  obtain ⟨selected, s', hselected, hruns⟩ := evaluate_runs h
  obtain ⟨-, rfl⟩ := select_eq_ok_iff.mp hselected
  refine ⟨s', hruns.acts fun rule member => ?_⟩
  have hmem := List.mem_mergeSort.mp (upToStop_subset _ member)
  obtain ⟨hrule, hcalled⟩ := List.mem_filter.mp hmem
  exact List.mem_filter.mpr ⟨hrule, by simpa using trigger_of_called hcalled⟩

end BusinessRule
end Formwork
