import Formwork.Proofs.Approval.Trail
import Formwork.Proofs.Workflow.Conflict
import Formwork.Proofs.Workflow.Found
/-!
# The parts of a state agree

The step, the status, the count of rounds and the chain of a submission are written in different
places. They agree all the same wherever a submission comes to rest: the count is that of the
records, the chain is open only on an approval step that awaits a decision, and an end step has a
final status. On the way from one step to the next the chain is closed, and a step that is entered
finds it so.
-/
namespace Formwork

open Calendar Document

namespace SubmissionState

variable {w : Workflow} {e : Surroundings} {step target : Step} {action : StepAction}
  {outcome : ApprovalOutcome} {kind : EventKind} {s t : SubmissionState}

/-- What the parts of a state of a workflow say of one another. -/
structure Consistent (w : Workflow) (s : SubmissionState) : Prop where
  counted : s.chain.Counted s.round
  chain : s.chain.Closed ∨ s.chain.AwaitsIn s.round ∧ s.status = .pendingApproval ∧
    ∃ step, w.step? s.step = some step ∧ step.kind = .approval
  finished : ∀ step, w.step? s.step = some step → step.kind = .finish → s.status.isFinal = true

/-! ## What lasts -/

theorem lasts_skipOpen {touched : String → Prop} (s : SubmissionState) :
    s.chain.Lasts touched s.skipOpen.chain := by
  apply Chain.Lasts.map
  intro r
  split
  · rename_i hopen
    exact ApprovalRecord.SameSeat.lasts_of_open ⟨rfl, rfl, rfl, rfl, rfl⟩ rfl rfl hopen
  · exact .refl touched r

section Lasts

variable {touched : String → Prop}

theorem Left.lasts (h : s.Left step action target t) : s.chain.Lasts touched t.chain := by
  rw [h.same]
  exact s.lasts_skipOpen

theorem Entered.lasts (h : Entered e step s t) : s.chain.Lasts touched t.chain := by
  induction h with
  | rests rested assigned =>
    apply Chain.Lasts.of_eq
    rw [assigned.same, rested.same]
  | awaits _ _ _ started assigned =>
    rw [assigned.same, started.same]
    exact .of_append _ _
  | passes rested _ _ leaves _ ih =>
    exact ((Chain.Lasts.of_eq (congrArg SubmissionState.chain rested.same)).trans leaves.lasts).trans
      ih

theorem Followed.lasts (h : s.Followed e step action t) : s.chain.Lasts touched t.chain := by
  obtain ⟨target, u, -, hleaves, hentered⟩ := h
  exact hleaves.lasts.trans hentered.lasts

theorem GoneOn.lasts (h : GoneOn e step s t) : s.chain.Lasts touched t.chain := by
  cases h with
  | stayed _ => exact .refl touched s.chain
  | followed _ followed => exact followed.lasts

end Lasts

theorem GoneOn.within (h : GoneOn e step s t) : s.chain.Within t.chain :=
  Chain.Lasts.within (h.lasts : s.chain.Lasts (fun _ => False) t.chain)

theorem Escalated.lasts {time : Stamp} {escalations : List Escalation}
    (h : Escalated time escalations s t) :
    s.chain.Lasts (fun id => ∃ x ∈ escalations, x.record = id) t.chain := by
  induction h with
  | done => exact .refl _ _
  | stopped _ => exact .refl _ _
  | @next x rest _ _ _ _ _ _ _ escalated decided _ ih =>
    have hnamed : ∀ id, id = x.record → ∃ y ∈ x :: rest, y.record = id :=
      fun id hid => ⟨x, List.mem_cons_self, hid.symm⟩
    have hlater : ∀ id, (∃ y ∈ rest, y.record = id) → ∃ y ∈ x :: rest, y.record = id :=
      fun id ⟨y, hy, hid⟩ => ⟨y, List.mem_cons_of_mem _ hy, hid⟩
    exact (((Chain.lasts_escalate escalated).mono hnamed).trans
      (.of_eq (congrArg SubmissionState.chain decided.same))).trans (ih.mono hlater)

/-! ## From step to step -/

theorem isFinal_restingStatus (h : step ∈ w.steps) (hkind : step.kind = .finish) :
    (Journey.restingStatus step).isFinal = true := by
  have hflaw := Workflow.flaw?_of_mem h
  unfold Step.flaw? at hflaw
  split at hflaw
  · simp at hflaw
  · rename_i hfinal
    simp only [Journey.restingStatus, hkind]
    cases hs : step.finalStatus with
    | none => rfl
    | some status => simpa [hkind, hs] using hfinal

theorem skipOpen_closed (counted : s.chain.Counted s.round) :
    s.skipOpen.chain.Counted s.skipOpen.round ∧ s.skipOpen.chain.Closed := by
  constructor
  · apply counted.map
    intro r
    split <;> rfl
  · intro r hr
    obtain ⟨q, -, rfl⟩ := List.mem_map.mp hr
    split
    · rfl
    · rename_i hclosed
      simpa using hclosed

theorem Left.closed (h : s.Left step action target t) (counted : s.chain.Counted s.round) :
    t.chain.Counted t.round ∧ t.chain.Closed := by
  rw [h.same]
  exact skipOpen_closed counted

/-- A step that is entered with a closed chain is the one that the submission rests on, or awaits
approval on, or another one that is entered in the same way. -/
theorem Entered.consistent (h : Entered e step s t)
    (onStep : e.workflow.step? step.id = some step) (here : s.step = step.id)
    (counted : s.chain.Counted s.round) (closed : s.chain.Closed) (fresh : t.chain.Distinct) :
    t.Consistent e.workflow := by
  induction h with
  | rests rested assigned =>
    rw [assigned.same, rested.same]
    refine ⟨counted, .inl closed, ?_⟩
    intro step' hstep' hkind
    simp only [here, onStep, Option.some.injEq] at hstep'
    subst hstep'
    exact isFinal_restingStatus (Workflow.mem_of_step? onStep) hkind
  | awaits kind asked nonempty started assigned =>
    rw [assigned.same, started.same] at fresh ⊢
    have hawaits := counted.awaitsIn closed asked nonempty fresh
    refine ⟨hawaits.counted, .inr ⟨hawaits, rfl, _, ?_, kind⟩, ?_⟩
    · rw [← onStep, ← here]
    · intro step' hstep' hkind
      simp only [here, onStep, Option.some.injEq] at hstep'
      rw [← hstep', kind] at hkind
      cases hkind
  | @passes step target action s t u v rested _ found leaves _ ih =>
    have hcounted : t.chain.Counted t.round := by
      rw [rested.same]
      exact counted
    obtain ⟨hleft, hclosed⟩ := leaves.closed hcounted
    exact ih found (congrArg SubmissionState.step leaves.same) hleft hclosed fresh

theorem Followed.consistent (h : s.Followed e step action t) (counted : s.chain.Counted s.round)
    (fresh : t.chain.Distinct) : t.Consistent e.workflow := by
  obtain ⟨target, u, hfound, hleaves, hentered⟩ := h
  obtain ⟨hleft, hclosed⟩ := hleaves.closed counted
  exact hentered.consistent hfound (congrArg SubmissionState.step hleaves.same) hleft hclosed fresh

theorem GoneOn.consistent (h : GoneOn e step s t) (hs : s.Consistent e.workflow)
    (fresh : t.chain.Distinct) : t.Consistent e.workflow := by
  cases h with
  | stayed _ => exact hs
  | followed _ followed => exact followed.consistent hs.counted fresh

/-! ## Decisions -/

/-- Decisions are awaited in the round that was started last. -/
structure Awaits (s : SubmissionState) : Prop where
  status : s.status = .pendingApproval
  chain : s.chain.AwaitsIn s.round

theorem Consistent.awaits (hs : s.Consistent w) {r : ApprovalRecord} (hr : r ∈ s.chain)
    (hp : r.status = .pending) :
    s.Awaits ∧ ∃ step, w.step? s.step = some step ∧ step.kind = .approval := by
  rcases hs.chain with hclosed | ⟨hchain, hstatus, hstep⟩
  · exact absurd hp (hclosed.not_pending hr)
  · exact ⟨⟨hstatus, hchain⟩, hstep⟩

theorem Awaits.consistent (h : s.Awaits)
    (onStep : ∃ step, w.step? s.step = some step ∧ step.kind = .approval) : s.Consistent w := by
  refine ⟨h.chain.counted, .inr ⟨h.chain, h.status, onStep⟩, ?_⟩
  intro step' hstep' hkind'
  obtain ⟨step, hstep, hkind⟩ := onStep
  rw [hstep, Option.some.injEq] at hstep'
  rw [← hstep', hkind] at hkind'
  cases hkind'

theorem Decided.parts (h : s.Decided outcome kind t) :
    t.step = s.step ∧ t.round = s.round ∧ t.chain = outcome.chain ∧ t.status = outcome.status := by
  rw [h.same]
  exact ⟨rfl, rfl, rfl, rfl⟩

/-- A move goes on with the round that is awaited, or ends it with a final status. -/
theorem Decided.consistent (h : s.Decided outcome kind t) (hs : s.Consistent w)
    (distinct : s.chain.Distinct) {move : Move} {r : ApprovalRecord} (hr : r ∈ s.chain)
    (hp : r.status = .pending) (does : s.chain.Does r move outcome)
    (fresh : outcome.chain.Distinct) : t.Consistent w := by
  obtain ⟨hawaits, onStep⟩ := hs.awaits hr hp
  obtain ⟨hstep, hround, hchain, hstatus⟩ := h.parts
  have hended : outcome.chain.Counted s.round → outcome.chain.Closed →
      outcome.status.isFinal = true → t.Consistent w := by
    intro counted closed final
    rw [← hchain, ← hround] at counted
    rw [← hchain] at closed
    rw [← hstatus] at final
    exact ⟨counted, .inl closed, fun _ _ _ => final⟩
  cases does.comesTo hawaits.chain distinct hr hp fresh with
  | goesOn status awaits =>
    rw [← hchain, ← hround] at awaits
    rw [← hstep] at onStep
    exact Awaits.consistent ⟨hstatus.trans status, awaits⟩ onStep
  | completed status counted closed _ _ => exact hended counted closed (by rw [status]; rfl)
  | rejected status counted closed _ => exact hended counted closed (by rw [status]; rfl)

theorem Escalated.same {time : Stamp} {escalations : List Escalation}
    (h : Escalated time escalations s t) :
    t = { s with chain := t.chain, status := t.status, history := t.history } := by
  induction h with
  | done => rfl
  | stopped _ => rfl
  | next _ _ decided _ ih => rw [ih, decided.same]

theorem Escalated.eq_of_ended {time : Stamp} {escalations : List Escalation}
    (h : Escalated time escalations s t) (ended : s.status ≠ .pendingApproval) : t = s := by
  cases h with
  | done => rfl
  | stopped _ => rfl
  | next awaited _ _ _ => exact absurd awaited ended

/-- Escalations for records that are asked, each for one of its own, are moves one after another: they
leave the round awaited, or reject one of these records. The induction is on the escalations: one
that does not end the round leaves the records of the others asked. -/
theorem Escalated.comesTo {time : Stamp} {escalations : List Escalation}
    (h : Escalated time escalations s t) (awaits : s.Awaits)
    (due : ∀ x ∈ escalations, ∃ r ∈ s.chain, r.id = x.record ∧ r.status = .pending)
    (once : (escalations.map (·.record)).Nodup) (fresh : t.chain.Distinct) :
    t.Awaits ∨ t.status = .rejected ∧ t.chain.Counted t.round ∧ t.chain.Closed ∧
      ∃ x ∈ escalations, ∃ a ∈ t.chain, a.id = x.record ∧ a.status = .rejected := by
  induction h with
  | done => exact .inl awaits
  | stopped ended => exact absurd awaits.status ended
  | @next x rest s u t outcome _ _ _ escalated decided later ih =>
    obtain ⟨-, hround, hchain, hstatus⟩ := decided.parts
    have hdistinct' : outcome.chain.Distinct := by
      rw [← hchain]
      exact fresh.of_within later.lasts.within
    have hdistinct : s.chain.Distinct := hdistinct'.of_within (Chain.lasts_escalate escalated).within
    obtain ⟨r, hr, hid, hp⟩ := due x List.mem_cons_self
    have hdoes := Chain.escalate_returns hdistinct hr hid escalated
    obtain ⟨hnew, honce⟩ := List.nodup_cons.mp once
    cases hdoes.comesTo awaits.chain hdistinct hr hp hdistinct' with
    | goesOn status awaits' =>
      have hu : u.Awaits := ⟨hstatus.trans status, by rw [hchain, hround]; exact awaits'⟩
      have hdue : ∀ y ∈ rest, ∃ q ∈ u.chain, q.id = y.record ∧ q.status = .pending := by
        intro y hy
        obtain ⟨q, hq, hqid, hqp⟩ := due y (List.mem_cons_of_mem _ hy)
        have hne : q ≠ r := by
          rintro rfl
          exact hnew (List.mem_map.mpr ⟨y, hy, by rw [← hqid, hid]⟩)
        rw [hchain]
        exact ⟨q, hdoes.keeps_others status hdistinct hr hq hne, hqid, hqp⟩
      rcases ih hu hdue honce fresh with hawaits | ⟨hrejected, hcounted, hclosed, y, hy, hfound⟩
      · exact .inl hawaits
      · exact .inr ⟨hrejected, hcounted, hclosed, y, List.mem_cons_of_mem _ hy, hfound⟩
    | completed _ _ _ _ approval =>
      obtain ⟨request, he, -⟩ := approval
      cases he
    | rejected status counted closed rejection =>
      have hended : t = u := later.eq_of_ended (by rw [hstatus, status]; simp)
      subst hended
      obtain ⟨a, ha, haid, har⟩ := rejection
      rw [hchain, hround, hstatus]
      exact .inr ⟨status, counted, closed, x, List.mem_cons_self, a, ha, haid.trans hid, har⟩

theorem Escalated.consistent {time : Stamp} {escalations : List Escalation}
    (h : Escalated time escalations s t) (hs : s.Consistent w)
    (due : ∀ x ∈ escalations, ∃ r ∈ s.chain, r.id = x.record ∧ r.status = .pending)
    (once : (escalations.map (·.record)).Nodup) (fresh : t.chain.Distinct) : t.Consistent w := by
  cases escalations with
  | nil =>
    cases h
    exact hs
  | cons x rest =>
    obtain ⟨r, hr, -, hp⟩ := due x List.mem_cons_self
    obtain ⟨hawaits, onStep⟩ := hs.awaits hr hp
    rcases h.comesTo hawaits due once fresh with hnext | ⟨hrejected, hcounted, hclosed, -⟩
    · apply hnext.consistent
      rw [h.same]
      exact onStep
    · exact ⟨hcounted, .inl hclosed, fun _ _ _ => by simp [hrejected, Status.isFinal]⟩

/-! ## Operations -/

/-- What is escalated are the findings on the chain as it stands. -/
def Due (s : SubmissionState) (op : Operation) : Prop :=
  ∀ escalations, op = .escalate escalations →
    ∃ settings now, s.chain.escalations settings now = .ok escalations

/-- The findings on a chain are for records that are asked, each for one of its own. -/
theorem Due.findings {escalations : List Escalation} (due : s.Due (.escalate escalations))
    (distinct : s.chain.Distinct) :
    (∀ x ∈ escalations, ∃ r ∈ s.chain, r.id = x.record ∧ r.status = .pending) ∧
      (escalations.map (·.record)).Nodup := by
  obtain ⟨settings, now, hfound⟩ := due escalations rfl
  refine ⟨?_, distinct.sublist (Chain.escalations_sublist hfound)⟩
  intro x hx
  obtain ⟨r, hr, hid, hp, -⟩ := Chain.due_of_mem_escalations hfound hx
  exact ⟨r, hr, hid, hp⟩

theorem Performed.consistent {r : WorkflowRequest} {op : Operation} (h : Performed r step s op t)
    (onState : r.submission.state = some s) (hs : s.Consistent r.workflow)
    (distinct : s.chain.Distinct) (due : s.Due op) (fresh : t.chain.Distinct) :
    t.Consistent r.workflow := by
  cases h with
  | execute _ followed => exact followed.consistent hs.counted fresh
  | @decide ballot config outcome u _ _ _ processed decided goesOn =>
    have htakes : s.chain.Takes s.status (.decision (r.approvalRequest config ballot)) outcome :=
      .decision onState rfl rfl processed
    obtain ⟨-, record, hrecord, hp, hdoes⟩ := htakes.cases distinct
    have hchain : u.chain = outcome.chain := congrArg SubmissionState.chain decided.same
    have hdistinct : outcome.chain.Distinct := by
      rw [← hchain]
      exact fresh.of_within goesOn.within
    exact goesOn.consistent (decided.consistent hs distinct hrecord hp hdoes hdistinct) fresh
  | terminate _ _ final ended =>
    obtain ⟨hcounted, hclosed⟩ := skipOpen_closed hs.counted
    rw [ended.same]
    exact ⟨hcounted, .inl hclosed, fun _ _ _ => final⟩
  | @escalate escalations u _ escalated goesOn =>
    obtain ⟨hdue, honce⟩ := due.findings distinct
    exact goesOn.consistent
      (escalated.consistent hs hdue honce (fresh.of_within goesOn.within)) fresh

end SubmissionState

namespace Workflow

open SubmissionState

variable {w : Workflow} {s s' : SubmissionState} {op : Operation}

/-- The states to which a start leads, and after it operations that escalate nothing but what is
found on the chain. A new record has an id of its own. -/
inductive DulyReached (w : Workflow) : SubmissionState → Prop
  | started {e : Surroundings} {submission : Submission} {ids left : Ids} {t : Transition}
      (inWorkflow : e.workflow = w) (returned : (e.start submission).Returns ids t left)
      (fresh : t.state.chain.Distinct) : DulyReached w t.state
  | called {s s' : SubmissionState} {op : Operation} (reached : DulyReached w s) (due : s.Due op)
      (call : w.Calls s op s') (fresh : s'.chain.Distinct) : DulyReached w s'

theorem DulyReached.reachable (reached : w.DulyReached s) : w.Reachable s := by
  induction reached with
  | started inWorkflow returned _ => exact .started inWorkflow returned
  | called _ _ call _ ih => exact .called ih call

theorem DulyReached.distinct (reached : w.DulyReached s) : s.chain.Distinct := by
  cases reached with
  | started _ _ fresh => exact fresh
  | called _ _ _ fresh => exact fresh

theorem Calls.consistent (call : w.Calls s op s') (hs : s.Consistent w)
    (distinct : s.chain.Distinct) (due : s.Due op) (fresh : s'.chain.Distinct) :
    s'.Consistent w := by
  cases call with
  | answered inWorkflow onState returned =>
    obtain ⟨step, u, -, hperformed, he⟩ := WorkflowRequest.perform_performed returned onState
    subst inWorkflow
    rw [he] at fresh ⊢
    have hu := hperformed.consistent onState hs distinct due fresh
    exact ⟨hu.counted, hu.chain, hu.finished⟩

theorem DulyReached.consistent (reached : w.DulyReached s) : s.Consistent w := by
  induction reached with
  | started inWorkflow returned fresh =>
    subst inWorkflow
    obtain ⟨noted, hnoted, hentered⟩ := Surroundings.start_entered returned
    apply hentered.consistent (Workflow.step?_start _) (congrArg SubmissionState.step hnoted.same)
    · rw [hnoted.same]
      exact ⟨fun r hr => (by cases hr), .inl ⟨rfl, rfl⟩⟩
    · rw [hnoted.same]
      exact fun r hr => by cases hr
    · exact fresh
  | called reached due call fresh ih => exact call.consistent ih reached.distinct due fresh

/-- The step is one of the workflow, so that nothing fails for want of a step. The count of rounds
is the largest round among the records, so that the round started last is the latest one. What is
pending or waiting is so in that round, on an approval step and in a status that awaits approval. An
end step has a final status. -/
theorem DulyReached.parts_agree (reached : w.DulyReached s) :
    (w.Has s.step ∧
      (∀ (e : Surroundings) submission ids f, e.workflow = w →
        (e.start submission).Fails ids f → ¬ f.LacksStep) ∧
      ∀ (r : WorkflowRequest) op ids f, r.workflow = w → r.submission.state = some s →
        (r.perform op).Fails ids f → ¬ f.LacksStep) ∧
    (s.round = (s.chain.map (·.round)).max?.getD 0 ∧ s.currentRound = s.chain.latest) ∧
    (∀ r ∈ s.chain, r.status = .pending ∨ r.status = .waiting →
      r.round = s.round ∧ s.status = .pendingApproval ∧
        ∃ step, w.step? s.step = some step ∧ step.kind = .approval) ∧
    (∀ step, w.step? s.step = some step → step.kind = .finish → s.status.isFinal = true) := by
  have has := reached.reachable.has
  have hs := reached.consistent
  refine ⟨⟨has, ?started, ?called⟩, ⟨hs.counted.eq_max, hs.counted.ofRound_eq_latest⟩, ?opened,
    hs.finished⟩
  case started =>
    intro e submission ids f _ hf
    exact e.start_findsSteps submission ids f hf
  case called =>
    rintro r op ids f rfl onState hf
    exact WorkflowRequest.perform_findsSteps onState has op ids f hf
  case opened =>
    intro r hr hundecided
    have hopen : r.status.isOpen = true := ApprovalStatus.isOpen_iff.mpr hundecided.symm
    rcases hs.chain with hclosed | ⟨hawaits, hstatus, hstep⟩
    · rw [hclosed r hr] at hopen
      cases hopen
    · exact ⟨hawaits.round_of_open hr hopen, hstatus, hstep⟩

end Workflow

namespace Release

theorem decided_trail : decided.map (fun (s, u) =>
      (s.chain.map (·.id), s.chain.actionable.map (·.approver), u.chain.map (·.id), u.round,
        u.status)) =
    some (["APR-000000000001", "APR-000000000002"], [some "ann", some "bob"],
      ["APR-000000000001", "APR-000000000002"], 1, .inProgress) := by cbv

theorem duly_decided : ∃ s t left, workflow.DulyReached s ∧
    ((request s).perform (approval "ann")).Returns {} t left ∧ t.state.chain.Distinct ∧
    s.chain.actionable ≠ [] ∧ s.step = "review" ∧ t.state.step = "work" ∧ t.state.round = 1 ∧
    t.state.status = .inProgress := by
  obtain ⟨⟨s, u⟩, hdecided, hparts⟩ := Option.map_eq_some_iff.mp decided_trail
  have hsteps := decided_eq
  rw [hdecided] at hsteps
  simp only [decided, Option.bind_eq_bind, Option.bind_eq_some_iff, Option.pure_def,
    Option.some.injEq, Prod.mk.injEq] at hdecided
  obtain ⟨started, hstarted, approved, happroved, rfl, rfl⟩ := hdecided
  obtain ⟨_, hstarted⟩ := Work.answer?_eq_some hstarted
  obtain ⟨left, happroved⟩ := Work.answer?_eq_some happroved
  simp only [Option.map_some, Option.some.injEq, Prod.mk.injEq] at hparts hsteps
  obtain ⟨hids, hasked, hids', hround, hstatus⟩ := hparts
  obtain ⟨hstep, -, hstep', -⟩ := hsteps
  have hreached : workflow.DulyReached started.state := by
    apply Workflow.DulyReached.started rfl hstarted
    unfold Chain.Distinct
    rw [hids]
    decide
  refine ⟨started.state, approved, left, hreached, happroved, ?fresh, ?asked, hstep, hstep',
    hround, hstatus⟩
  case fresh =>
    unfold Chain.Distinct
    rw [hids']
    decide
  case asked =>
    intro hnobody
    rw [hnobody] at hasked
    cases hasked

theorem dulyReached_work : ∃ u, workflow.DulyReached u ∧ u.round = 1 ∧ u.status = .inProgress := by
  obtain ⟨s, t, left, hreached, hreturned, hfresh, -, -, -, hround, hstatus⟩ := duly_decided
  refine ⟨t.state, ?_, hround, hstatus⟩
  exact .called hreached (fun _ he => by cases he) (.answered rfl rfl hreturned) hfresh

end Release

namespace Workflow

/-- At work, nobody is asked any more. -/
theorem DulyReached.parts_agree_work : ∃ u, Release.workflow.DulyReached u ∧
    u.status = .inProgress ∧ (u.chain.map (·.round)).max?.getD 0 = 1 ∧
    ∀ r ∈ u.chain, r.status ≠ .pending ∧ r.status ≠ .waiting := by
  obtain ⟨u, hreached, hround, hstatus⟩ := Release.dulyReached_work
  obtain ⟨-, ⟨hmax, -⟩, hopened, -⟩ := DulyReached.parts_agree hreached
  refine ⟨u, hreached, hstatus, by rw [← hmax, hround], ?_⟩
  intro r hr
  have hawaited : ∀ h : r.status = .pending ∨ r.status = .waiting, False := by
    intro h
    have hp := (hopened r hr h).2.1
    rw [hstatus] at hp
    cases hp
  exact ⟨fun h => hawaited (.inl h), fun h => hawaited (.inr h)⟩

end Workflow
end Formwork
