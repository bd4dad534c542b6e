import Formwork.Proofs.Field.Merging
import Formwork.Proofs.Workflow.Operation
/-!
# What an operation asks for and sets

A transition is made of the journey behind it: it describes the state in which the journey ended,
and its instructions and updates are those that were collected on the way. Actions of steps never
tell of an escalation, only escalations do; to end a submission where it stands asks for nothing.
-/
namespace Formwork

/-! ## On the way -/

theorem Action.instruction_kind {a : Action} {source : String} {c : Context} {ids left : Ids}
    {made : Option Instruction} (h : (a.instruction source c).Returns ids made left)
    {i : Instruction} (hmade : made = some i) : i.kind ≠ .escalate := by
  simp only [instruction, Work.bind_returns_iff, Work.lift_returns_iff] at h
  obtain ⟨request, _, ⟨hrequest, rfl⟩, h⟩ := h
  cases request with
  | none =>
    simp only [Work.pure_returns_iff] at h
    rw [← h.1] at hmade
    cases hmade
  | some asked =>
    obtain ⟨kind, payload⟩ := asked
    simp only [Work.bind_returns_iff, Work.pure_returns_iff] at h
    obtain ⟨_, _, -, rfl, -⟩ := h
    rw [Option.some.injEq] at hmade
    subst hmade
    rintro rfl
    unfold Action.request at hrequest
    split at hrequest
    · obtain ⟨_, -, hasked⟩ := Work.except_bind_eq_ok_iff.mp hrequest
      cases hasked
    · obtain ⟨_, -, hasked⟩ := Work.except_bind_eq_ok_iff.mp hrequest
      cases hasked
    · obtain ⟨_, -, hasked⟩ := Work.except_bind_eq_ok_iff.mp hrequest
      cases hasked
    · cases hrequest

namespace Journey

variable {e : Surroundings} {j j' j'' : Journey} {step target : Step} {action : StepAction}
  {actor comments : Option String} {ids left : Ids}

/-- What comes of a part of the way: its updates are merged into those before, and its instructions
stand behind those before, none of them for an escalation. -/
structure Adds (j j' : Journey) : Prop where
  updates : j.updates.Proper → j'.updates.Proper
  instructions : ∃ more, j'.instructions = j.instructions ++ more ∧
    ∀ i ∈ more, i.kind ≠ .escalate

theorem Adds.of_eq (hupdates : j'.updates = j.updates)
    (hinstructions : j'.instructions = j.instructions) : j.Adds j' where
  updates h := hupdates ▸ h
  instructions := ⟨[], by simpa using hinstructions, by simp⟩

theorem Adds.of_pure (h : (pure j : Work Journey).Returns ids j' left) : j.Adds j' := by
  obtain ⟨rfl, -⟩ := Work.pure_returns_iff.mp h
  exact .of_eq rfl rfl

theorem Adds.trans (h : j.Adds j') (h' : j'.Adds j'') : j.Adds j'' where
  updates proper := h'.updates (h.updates proper)
  instructions := by
    obtain ⟨more, hmore, hplain⟩ := h.instructions
    obtain ⟨later, hlater, hplain'⟩ := h'.instructions
    refine ⟨more ++ later, by rw [hlater, hmore, List.append_assoc], ?_⟩
    intro i hi
    exact (List.mem_append.mp hi).elim (hplain i) (hplain' i)

theorem perform_adds {source : String} {context : Context} {actions : List Action}
    (h : (j.perform source context actions).Returns ids j' left) : j.Adds j' := by
  induction actions generalizing j ids with
  | nil => exact .of_pure h
  | cons a rest ih =>
    simp only [perform, Work.bind_returns_iff, Work.lift_returns_iff] at h
    obtain ⟨update, _, -, h⟩ := h
    split at h
    · rename_i u
      have hset : j.Adds { j with updates := j.updates.set u } :=
        ⟨fun proper => proper.set u, [], by simp, by simp⟩
      exact hset.trans (ih h)
    · simp only [Work.bind_returns_iff] at h
      obtain ⟨made, _, hmade, h⟩ := h
      have hasked : j.Adds { j with instructions := j.instructions ++ made.toList } :=
        ⟨id, made.toList, rfl, fun i hi => a.instruction_kind hmade (Option.mem_toList.mp hi)⟩
      exact hasked.trans (ih h)

theorem arrive_same {next : Option StepAction}
    (h : (j.arrive e step actor).Returns ids (j', next) left) :
    j' = { j with state := j'.state, chain := j'.chain } := by
  rw [arrive_eq, Work.bind_returns_iff] at h
  obtain ⟨records, _, -, h⟩ := h
  unfold settle at h
  split at h
  · simp only [noteStatus, Work.bind_returns_iff, Work.pure_returns_iff, Prod.mk.injEq] at h
    obtain ⟨_, _, ⟨state, _, -, rfl, -⟩, ⟨rfl, -⟩, -⟩ := h
    rfl
  · simp only [startRound, noteStatus, Work.bind_returns_iff, Work.pure_returns_iff,
      Prod.mk.injEq] at h
    obtain ⟨_, _, ⟨started, _, -, rfl, -⟩, _, _, ⟨state, _, -, rfl, -⟩, ⟨rfl, -⟩, -⟩ := h
    rfl

theorem arrive_adds {next : Option StepAction}
    (h : (j.arrive e step actor).Returns ids (j', next) left) : j.Adds j' :=
  .of_eq (by rw [arrive_same h]) (by rw [arrive_same h])

theorem assignOnEntry_keeps {autoAssign : Bool}
    (h : (j.assignOnEntry e step autoAssign actor).Returns ids j' left) :
    j'.updates = j.updates ∧ j'.instructions = j.instructions := by
  have hpure : (pure j : Work Journey).Returns ids j' left →
      j'.updates = j.updates ∧ j'.instructions = j.instructions := by
    intro hj
    obtain ⟨rfl, -⟩ := Work.pure_returns_iff.mp hj
    exact ⟨rfl, rfl⟩
  unfold assignOnEntry at h
  split at h
  · exact hpure h
  · split at h
    · unfold assign at h
      obtain ⟨chosen, _, -, h⟩ := Work.bind_returns_iff.mp h
      split at h
      · obtain ⟨rfl, -⟩ := Work.pure_returns_iff.mp h
        exact ⟨rfl, rfl⟩
      · simp only [Work.bind_returns_iff, Work.pure_returns_iff] at h
        obtain ⟨state, _, -, rfl, -⟩ := h
        exact ⟨rfl, rfl⟩
    · exact hpure h

theorem assignOnEntry_adds {autoAssign : Bool}
    (h : (j.assignOnEntry e step autoAssign actor).Returns ids j' left) : j.Adds j' :=
  .of_eq (assignOnEntry_keeps h).1 (assignOnEntry_keeps h).2

theorem leave_adds (h : (j.leave e step action actor comments).Returns ids (target, j') left) :
    j.Adds j' := by
  simp only [leave, Work.bind_returns_iff, Work.lift_returns_iff, Work.pure_returns_iff,
    Prod.mk.injEq] at h
  obtain ⟨_, _, -, j₁, _, hexit, j₂, _, hauto, state, _, -, ⟨-, rfl⟩, -⟩ := h
  exact ((perform_adds hexit).trans (perform_adds hauto)).trans (.of_eq rfl rfl)

theorem enter_adds {moves : Nat} {autoAssign : Bool}
    (h : (enter e moves step actor autoAssign j).Returns ids j' left) : j.Adds j' := by
  induction moves using Nat.strongRecOn generalizing step actor autoAssign j ids with
  | ind moves ih =>
    obtain ⟨j₁, j₂, next, _, _, hperformed, harrived, hgone⟩ := enter_cases h
    have hthere : j.Adds j₂ := (perform_adds hperformed).trans (arrive_adds harrived)
    rcases hgone with ⟨-, hassigned⟩ | ⟨action, target, j₃, _, fewer, -, rfl, hleft, hentered⟩
    · exact hthere.trans (assignOnEntry_adds hassigned)
    · exact (hthere.trans (leave_adds hleft)).trans (ih fewer (Nat.lt_succ_self fewer) hentered)

theorem follow_adds {moves : Nat}
    (h : (j.follow e moves step action actor comments).Returns ids j' left) : j.Adds j' := by
  simp only [follow, Work.bind_returns_iff] at h
  obtain ⟨⟨target, j₁⟩, _, hleft, hentered⟩ := h
  exact (leave_adds hleft).trans (enter_adds hentered)

end Journey

/-! ## Transitions -/

/-- A transition describes the state that it returns. -/
structure Transition.Describes (t : Transition) (w : Workflow) : Prop where
  status : t.status = t.state.status
  step : w.step? t.state.step = some t.step
  assignee : t.assignee = t.state.assignee

theorem Journey.transition_describes {j : Journey} {e : Surroundings} {previous : Option String}
    {t : Transition} (h : j.transition e previous = .ok t) :
    t.Describes e.workflow ∧ t.instructions = j.instructions ∧ t.updates = j.updates := by
  simp only [transition, Work.except_bind_eq_ok_iff] at h
  obtain ⟨there, hthere, h⟩ := h
  simp only [pure, Except.pure, Except.ok.injEq] at h
  subst h
  exact ⟨⟨rfl, Workflow.requireStep_eq_ok_iff.mp hthere, rfl⟩, rfl, rfl⟩

/-- A transition that an action or a decision makes: it describes its state, sets no property twice,
and tells of no escalation. -/
structure Transition.Plain (t : Transition) (w : Workflow) : Prop extends t.Describes w where
  updates : t.updates.Proper
  instructions : ∀ i ∈ t.instructions, i.kind ≠ .escalate

/-- A transition that ends a submission where it stands asks for nothing. -/
structure Transition.Ends (t : Transition) (s : SubmissionState) : Prop where
  step : t.state.step = s.step
  assignee : t.state.assignee = s.assignee
  final : t.state.status.isFinal = true
  instructions : t.instructions = []
  updates : t.updates = []

theorem Transition.Ends.trans {t t' : Transition} {s : SubmissionState} (h' : t'.Ends t.state)
    (h : t.Ends s) : t'.Ends s where
  step := h'.step.trans h.step
  assignee := h'.assignee.trans h.assignee
  final := h'.final
  instructions := h'.instructions
  updates := h'.updates

namespace WorkflowRequest

variable {r : WorkflowRequest} {s : SubmissionState} {step : Step} {j j' : Journey}
  {t : Transition} {ids left : Ids}

theorem finish_describes (h : (r.finish j step).Returns ids t left) :
    t.Describes r.workflow ∧ t.instructions = j.instructions ∧ t.updates = j.updates := by
  unfold finish at h
  rw [Work.lift_returns_iff] at h
  exact Journey.transition_describes h.1

theorem finish_plain (h : (r.finish j step).Returns ids t left)
    (hadds : Journey.Adds { state := s } j) : t.Plain r.workflow := by
  obtain ⟨hdescribes, hinstructions, hupdates⟩ := finish_describes h
  refine ⟨hdescribes, hupdates ▸ hadds.updates Updates.Proper.nil, ?_⟩
  obtain ⟨more, hmore, hplain⟩ := hadds.instructions
  rw [hinstructions, hmore]
  exact hplain

theorem execute_plain {actionId : String} (h : (r.execute actionId).Returns ids t left) :
    t.Plain r.workflow := by
  simp only [execute, Work.bind_returns_iff, Work.lift_returns_iff] at h
  obtain ⟨⟨state, step, action⟩, _, -, j, _, hfollowed, hfinished⟩ := h
  exact finish_plain hfinished (Journey.follow_adds hfollowed)

theorem followChain_adds (h : (r.followChain step j).Returns ids j' left) : j.Adds j' := by
  rcases followChain_returns h with ⟨-, rfl, -⟩ | ⟨action, -, hfollowed⟩
  · exact .of_eq rfl rfl
  · exact Journey.follow_adds hfollowed

theorem decide_plain {ballot : Except Failure Ballot} (h : (r.decide ballot).Returns ids t left) :
    t.Plain r.workflow := by
  simp only [decide, Work.bind_returns_iff] at h
  obtain ⟨_, _, -, step, _, -, _, _, -, _, _, -, _, _, -, state, _, -, j, _, hfollowed,
    hfinished⟩ := h
  exact finish_plain hfinished (followChain_adds hfollowed)

theorem terminate_ends {status reason : Value}
    (h : (r.terminate status reason).Returns ids t left) (onState : r.submission.state = some s) :
    t.Ends s := by
  simp only [terminate, Work.bind_returns_iff, Work.lift_returns_iff, requireState_of onState] at h
  obtain ⟨status', _, -, h⟩ := h
  split at h
  · simp [Work.bind_returns_iff] at h
  · rename_i hfinal
    simp only [Work.bind_returns_iff, Work.lift_returns_iff, Except.ok.injEq] at h
    obtain ⟨state, _, ⟨rfl, -⟩, _, _, -, _, _, -, step, _, -, ended, _, hnoted, hfinished⟩ := h
    obtain ⟨-, hinstructions, hupdates⟩ := finish_describes hfinished
    obtain ⟨event, he⟩ := SubmissionState.note_returns hnoted
    have hstate := finish_returns hfinished
    rw [he] at hstate
    refine ⟨?_, ?_, ?_, hinstructions, hupdates⟩
    · rw [hstate]
      rfl
    · rw [hstate]
      rfl
    · rw [hstate]
      simpa [SubmissionState.bump, SubmissionState.add] using hfinal

/-! ## Escalations -/

theorem escalateAll_instructions {escalations : List Escalation}
    (h : (r.escalateAll step escalations j).Returns ids j' left) :
    ∃ more, j'.instructions = j.instructions ++ more := by
  induction escalations generalizing j ids with
  | nil =>
    simp only [escalateAll, Work.pure_returns_iff] at h
    obtain ⟨rfl, -⟩ := h
    exact ⟨[], by simp⟩
  | cons e rest ih =>
    unfold escalateAll at h
    split at h
    · simp only [Work.bind_returns_iff] at h
      obtain ⟨_, _, -, _, _, -, made, _, -, h⟩ := h
      obtain ⟨more, hmore⟩ := ih h
      exact ⟨made :: more, by simpa using hmore⟩
    · simp only [Work.pure_returns_iff] at h
      obtain ⟨rfl, -⟩ := h
      exact ⟨[], by simp⟩

theorem escalate_tells {e : Escalation} {rest : List Escalation}
    (h : (r.escalate (e :: rest)).Returns ids t left) (onState : r.submission.state = some s)
    (pending : s.status = .pendingApproval) : ∃ i ∈ t.instructions, i.kind = .escalate := by
  simp only [escalate, Work.bind_returns_iff, Work.lift_returns_iff, requireState_of onState,
    Except.ok.injEq] at h
  obtain ⟨state, _, ⟨rfl, -⟩, _, _, -, step, _, -, j, _, hescalated, j', _, hfollowed,
    hfinished⟩ := h
  unfold escalateAll at hescalated
  rw [if_pos pending] at hescalated
  simp only [escalationInstruction, Work.bind_returns_iff, Work.pure_returns_iff] at hescalated
  obtain ⟨_, _, -, _, _, -, made, _, ⟨_, _, -, rfl, -⟩, hescalated⟩ := hescalated
  obtain ⟨more, hmore⟩ := escalateAll_instructions hescalated
  obtain ⟨later, hlater, -⟩ := (followChain_adds hfollowed).instructions
  obtain ⟨-, hinstructions, -⟩ := finish_describes hfinished
  rw [hinstructions, hlater, hmore]
  exact ⟨_, List.mem_append_left _ (List.mem_append_left _ List.mem_cons_self), rfl⟩

end WorkflowRequest
end Formwork
