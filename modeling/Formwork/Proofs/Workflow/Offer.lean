import Formwork.Proofs.Workflow.Found
/-!
# What is offered

The actions that a step offers are found out without carrying any out, and an action that is asked
for is checked on its own, in another order. Here the two come to the same: where the guards of a
step can be evaluated, an action is offered just where nothing but its transition can still keep it
from being carried out.
-/
namespace Formwork

open Document Work

/-- The refusal of an action for want of a comment. -/
def Failure.commentMissing (actionId : String) : Failure :=
  .refuse .validation s!"Action '{actionId}' requires a comment" [("action_id", .text actionId)]

/-- What an action is refused for without regard to its transition, but for the comment. -/
def Refusal.Kind.ofCheck : List Refusal.Kind :=
  [.concurrency, .invalidState, .stepNotFound, .actionNotAvailable, .guardNotSatisfied,
    .unauthorized]

/-- The failure is one of the checks that an action has to pass before it is carried out. -/
def Failure.OfCheck (actionId : String) (f : Failure) : Prop :=
  f = .commentMissing actionId ∨
    ∃ refusal : Refusal, f = .refused refusal ∧ refusal.kind ∈ Refusal.Kind.ofCheck

theorem Failure.ofCheck_refuse {actionId : String} {kind : Refusal.Kind} (message : String)
    (details : Entries Value) (h : kind ∈ Refusal.Kind.ofCheck) :
    Failure.OfCheck actionId (.refuse kind message details) :=
  .inr ⟨_, rfl, h⟩

theorem Failure.ofCheck_offWay (actionId : String) :
    Failure.OffWay (Failure.OfCheck actionId) where
  beyond f hf h := by
    rcases h with rfl | ⟨refusal, rfl, -⟩
    · cases hf
    · cases hf
  configuration message details h := by
    rcases h with h | ⟨refusal, h, hkind⟩
    · simp [commentMissing, refuse] at h
    · simp only [refuse, refused.injEq] at h
      subst h
      simp [Refusal.Kind.ofCheck] at hkind

/-! ## What is available -/

namespace StepAction

variable {a : StepAction} {status : Status} {context : Context}

theorem isAvailable_eq_true_iff : a.isAvailable status context = .ok true ↔
    ¬ (status = .pendingApproval ∧ (!a.duringApproval) = true) ∧
      a.permits context.user = true ∧ Group.holds? a.guard context = .ok true := by
  unfold isAvailable
  by_cases hblocked : status = .pendingApproval ∧ (!a.duringApproval) = true
  · simp [hblocked]
  · rw [if_neg hblocked]
    cases a.permits context.user
    · simp
    · simpa using fun _ => hblocked

theorem isAvailable_told (evaluates : ∃ holds, Group.holds? a.guard context = .ok holds)
    (status : Status) : ∃ available, a.isAvailable status context = .ok available := by
  unfold isAvailable
  split
  · exact ⟨false, rfl⟩
  · split
    · exact ⟨false, rfl⟩
    · exact evaluates

end StepAction

namespace Step

variable {status : Status} {context : Context} {actions : List StepAction}

/-- Where it can be told of each action, those that are available are found, in their order. -/
theorem availableAmong_told
    (told : ∀ a ∈ actions, ∃ available, a.isAvailable status context = .ok available) :
    ∃ offers, availableAmong status context actions = .ok offers ∧ offers.Sublist actions ∧
      ∀ a, a ∈ offers ↔ a ∈ actions ∧ a.isAvailable status context = .ok true := by
  have hsifted := (sift_eq_ok_iff (·.isAvailable status context) (availableAmong status context) rfl
    fun _ _ => rfl).mpr ⟨told, rfl⟩
  refine ⟨_, hsifted, List.filter_sublist, fun a => ?_⟩
  rw [List.mem_filter, affirmed_iff]

end Step

/-! ## The checks -/

/-- The work fails only by a check on the action. -/
abbrev Work.OnlyChecks {α : Type} (w : Work α) (actionId : String) : Prop :=
  w.Avoids fun f => ¬ f.OfCheck actionId

theorem refuse_onlyChecks {α : Type} {actionId : String} {kind : Refusal.Kind} {message : String}
    {details : Entries Value} (h : kind ∈ Refusal.Kind.ofCheck) :
    (Work.refuse kind message details : Work α).OnlyChecks actionId :=
  throw_avoids (not_not_intro (Failure.ofCheck_refuse message details h))

namespace StepAction

variable {a : StepAction} {context : Context} {user : Option User}

theorem checkGuard_eq_ok_iff {u : Unit} :
    a.checkGuard context = .ok u ↔ Group.holds? a.guard context = .ok true := by
  unfold checkGuard
  rw [except_bind_eq_ok_iff]
  constructor
  · rintro ⟨holds, hholds, h⟩
    cases holds with
    | true => exact hholds
    | false => cases h
  · intro hholds
    exact ⟨true, hholds, rfl⟩

theorem checkGuard_onlyChecks (evaluates : ∃ holds, Group.holds? a.guard context = .ok holds) :
    (lift (a.checkGuard context)).OnlyChecks a.id := by
  obtain ⟨holds, hholds⟩ := evaluates
  unfold checkGuard
  rw [hholds, except_ok_bind]
  cases holds with
  | true => exact pure_avoids _
  | false => exact refuse_onlyChecks (by simp [Refusal.Kind.ofCheck])

theorem enforce_eq_ok_iff : a.enforce user = .ok () ↔ a.permits user = true := by
  unfold enforce
  cases a.permits user <;> simp

theorem enforce_onlyChecks : (lift (a.enforce user)).OnlyChecks a.id := by
  unfold enforce
  split
  · exact lift_ok_avoids _
  · exact refuse_onlyChecks (by simp [Refusal.Kind.ofCheck])

end StepAction

namespace WorkflowRequest

variable {r : WorkflowRequest} {s : SubmissionState} {step : Step} {a : StepAction}

theorem checkAction_eq_ok_iff : r.checkAction s step a = .ok () ↔
    ¬ (s.status = .pendingApproval ∧ (!a.duringApproval) = true) ∧
      ¬ (a.requiresComment = true ∧ (Value.ofText? r.comments).isEmpty = true) ∧
      Group.holds? a.guard r.context = .ok true ∧ a.permits r.context.user = true := by
  unfold checkAction
  dsimp only
  simp only [ite_throw_eq_ok_iff, except_bind_eq_ok_iff, StepAction.checkGuard_eq_ok_iff,
    StepAction.enforce_eq_ok_iff, exists_and_left, exists_const]

theorem checkAction_eq_ok_iff_isAvailable (step : Step)
    (commented : (Value.ofText? r.comments).isEmpty = false) :
    r.checkAction s step a = .ok () ↔ a.isAvailable s.status r.context = .ok true := by
  rw [checkAction_eq_ok_iff, StepAction.isAvailable_eq_true_iff]
  constructor
  · rintro ⟨hopen, -, hguard, hpermits⟩
    exact ⟨hopen, hpermits, hguard⟩
  · rintro ⟨hopen, hpermits, hguard⟩
    exact ⟨hopen, by simp [commented], hguard, hpermits⟩

theorem checkAction_onlyChecks
    (evaluates : ∃ holds, Group.holds? a.guard r.context = .ok holds) :
    (lift (r.checkAction s step a)).OnlyChecks a.id := by
  unfold checkAction
  dsimp only
  split
  · exact refuse_onlyChecks (by simp [Refusal.Kind.ofCheck])
  · split
    · exact throw_avoids (not_not_intro (.inl rfl))
    · rw [lift_bind]
      exact bind_avoids (StepAction.checkGuard_onlyChecks evaluates) fun _ =>
        StepAction.enforce_onlyChecks

section Current

variable (onState : r.submission.state = some s) (onStep : r.workflow.step? s.step = some step)
  (current : ∀ version, r.expectedVersion = some version → version = s.version)
  (offered : a ∈ step.actions)

include onState onStep current offered

/-- On the present version, an action of the current step is resolved if it is not too late and the
checks of the action are passed. -/
theorem resolve_eq : r.resolve a.id =
    r.checkNotFinal s >>= fun _ => r.checkAction s step a >>= fun _ => pure (s, step, a) := by
  have hversion : r.checkVersion s = .ok () := by
    unfold checkVersion
    split
    · rfl
    · rename_i version hexpected
      rw [if_pos (current version hexpected)]
  have haction : step.requireAction a.id = .ok a := by
    unfold Step.requireAction
    rw [Workflow.action?_of_mem (Workflow.mem_of_step? onStep) offered]
  unfold resolve
  rw [requireState_of onState, except_ok_bind, hversion, except_ok_bind,
    Workflow.requireStep_eq_ok_iff.mpr onStep]
  cases r.checkNotFinal s with
  | error f => rfl
  | ok _ =>
    rw [except_ok_bind, except_ok_bind, haction]
    rfl

theorem resolve_eq_ok_iff (commented : (Value.ofText? r.comments).isEmpty = false) :
    r.resolve a.id = .ok (s, step, a) ↔
      s.status.isFinal = false ∧ a.isAvailable s.status r.context = .ok true := by
  rw [resolve_eq onState onStep current offered, ← checkNotFinal_eq_ok_iff (r := r),
    ← checkAction_eq_ok_iff_isAvailable step commented]
  simp only [except_bind_eq_ok_iff]
  constructor
  · rintro ⟨_, hopen, _, hchecked, -⟩
    exact ⟨hopen, hchecked⟩
  · rintro ⟨hopen, hchecked⟩
    exact ⟨(), hopen, (), hchecked, rfl⟩

theorem resolve_onlyChecks (evaluates : ∃ holds, Group.holds? a.guard r.context = .ok holds) :
    (lift (r.resolve a.id)).OnlyChecks a.id := by
  rw [resolve_eq onState onStep current offered, lift_bind]
  refine bind_avoids ?_ fun _ => ?_
  · unfold checkNotFinal
    split
    · exact refuse_onlyChecks (by simp [Refusal.Kind.ofCheck])
    · exact lift_ok_avoids _
  · rw [lift_bind]
    exact bind_avoids (checkAction_onlyChecks evaluates) fun _ => pure_avoids _

omit onState current in
theorem execute_avoids_checks (resolved : r.resolve a.id = .ok (s, step, a)) :
    (r.execute a.id).Avoids (Failure.OfCheck a.id) := by
  unfold execute
  rw [resolved, lift_ok_bind]
  refine bind_avoids_of ((Failure.ofCheck_offWay a.id).follow (Workflow.mem_of_step? onStep)
    offered) fun _ j _ hfollowed => ?_
  exact finish_avoids (Journey.follow_returns hfollowed).2.has

theorem passes_checks_iff (evaluates : ∃ holds, Group.holds? a.guard r.context = .ok holds)
    (ids : Ids) : (∀ f, (r.execute a.id).Fails ids f → ¬ f.OfCheck a.id) ↔
      r.resolve a.id = .ok (s, step, a) := by
  constructor
  · intro hpasses
    cases hresolved : r.resolve a.id with
    | ok found =>
      have hfound := hresolved
      rw [resolve_eq onState onStep current offered] at hfound
      simp only [except_bind_eq_ok_iff] at hfound
      obtain ⟨_, -, _, -, hfound⟩ := hfound
      exact hfound.symm
    | error f =>
      have hfails : (r.execute a.id).Fails ids f := by
        unfold execute
        rw [hresolved, lift_error_bind, throw_fails_iff]
      have hcheck := resolve_onlyChecks onState onStep current offered evaluates ids f
        (lift_fails_iff.mpr hresolved)
      exact absurd (hpasses f hfails) hcheck
  · intro hresolved
    exact execute_avoids_checks onStep offered hresolved ids

end Current

/-- What is offered is what can be executed: where the guards of the current step can be evaluated,
those of its actions are offered that fail by none of their checks when they are asked for with a
comment, on any version or the present one. -/
theorem offered_iff_passes_checks (onState : r.submission.state = some s)
    (onStep : r.workflow.step? s.step = some step)
    (evaluates : ∀ a ∈ step.actions, ∃ holds, Group.holds? a.guard r.context = .ok holds)
    {comment : String} (commented : r.comments = some comment)
    (notBlank : Text.isBlankText comment = false)
    (current : r.expectedVersion = none ∨ r.expectedVersion = some s.version) :
    ∃ offers, r.workflow.available s r.context = .ok offers ∧ offers.Sublist step.actions ∧
      ∀ a ∈ step.actions, ∀ ids,
        a ∈ offers ↔ ∀ f, (r.execute a.id).Fails ids f → ¬ f.OfCheck a.id := by
  have hcurrent : ∀ version, r.expectedVersion = some version → version = s.version := by
    intro version hexpected
    rcases current with hnone | hsome
    · rw [hnone] at hexpected
      cases hexpected
    · rw [hsome, Option.some.injEq] at hexpected
      exact hexpected.symm
  have hcomment : (Value.ofText? r.comments).isEmpty = false := by
    rw [commented]
    exact notBlank
  have hiff : ∀ a ∈ step.actions, ∀ ids,
      (∀ f, (r.execute a.id).Fails ids f → ¬ f.OfCheck a.id) ↔
        s.status.isFinal = false ∧ a.isAvailable s.status r.context = .ok true := by
    intro a ha ids
    rw [passes_checks_iff onState onStep hcurrent ha (evaluates a ha),
      resolve_eq_ok_iff onState onStep hcurrent ha hcomment]
  cases hfinal : s.status.isFinal with
  | true =>
    refine ⟨[], by unfold Workflow.available; rw [if_pos hfinal], List.nil_sublist _, ?_⟩
    intro a ha ids
    rw [hiff a ha ids, hfinal]
    exact iff_of_false List.not_mem_nil fun h => by cases h.1
  | false =>
    have htold : ∀ a ∈ step.actions, ∃ available,
        a.isAvailable s.status r.context = .ok available :=
      fun a ha => a.isAvailable_told (evaluates a ha) s.status
    obtain ⟨offers, havailable, hsub, hmem⟩ := Step.availableAmong_told htold
    refine ⟨offers, ?_, hsub, ?_⟩
    · unfold Workflow.available
      rw [if_neg (by simp [hfinal]), Workflow.requireStep_eq_ok_iff.mpr onStep, except_ok_bind,
        havailable]
    · intro a ha ids
      rw [hiff a ha ids, hmem, and_iff_right ha, and_iff_right hfinal]

end WorkflowRequest

/-! A draft that anybody may hand in, and that only a chief may discard. -/
namespace Draft

def submit : StepAction :=
  { id := "submit", name := none, target := "filed", requiredRoles := [], guard := none,
    autoAssign := true, autoActions := [], requiresComment := true, duringApproval := false }

def discard : StepAction := { submit with id := "discard", requiredRoles := ["chief"] }

def draft : Step :=
  { id := "draft", name := none, kind := .start, actions := [submit, discard], approval := none,
    assignment := none, activeStatus := .inProgress, finalStatus := none, onEnter := [],
    onExit := [], onApproved := none, onRejected := none }

def filed : Step := { draft with id := "filed", kind := .finish, actions := [],
                                  finalStatus := some .completed }

def workflow : Workflow where
  steps := [draft, filed]
  startId := none
  sound := by decide

def morning : Calendar.Instant := ⟨28800000000, by decide⟩

def request : WorkflowRequest :=
  { submission := { id := "S1", submitter := ⟨"u1", none, [], []⟩,
                    state := some { step := "draft", status := .submitted } },
    workflow := workflow, context := .ofNow morning, comments := some "as agreed",
    expectedVersion := some 0 }

end Draft

namespace WorkflowRequest

/-- Somebody who is no chief can hand the draft in, and is kept from discarding it by a check. -/
theorem offered_iff_passes_checks_draft :
    (∀ f, (Draft.request.execute "submit").Fails {} f → ¬ f.OfCheck "submit") ∧
      ∃ f, (Draft.request.execute "discard").Fails {} f ∧ f.OfCheck "discard" := by
  have evaluates : ∀ a ∈ Draft.draft.actions,
      ∃ holds, Group.holds? a.guard Draft.request.context = .ok holds := by
    intro a ha
    simp only [Draft.draft, List.mem_cons, List.not_mem_nil, or_false] at ha
    rcases ha with rfl | rfl
    · exact ⟨true, rfl⟩
    · exact ⟨true, rfl⟩
  have onStep : Draft.request.workflow.step? "draft" = some Draft.draft := rfl
  obtain ⟨offers, havailable, -, hiff⟩ := offered_iff_passes_checks (r := Draft.request) rfl onStep
    evaluates rfl (by decide) (.inr rfl)
  have hoffers : Draft.request.workflow.available { step := "draft", status := .submitted }
    Draft.request.context = .ok [Draft.submit] := rfl
  rw [hoffers, Except.ok.injEq] at havailable
  subst havailable
  refine ⟨(hiff Draft.submit (by simp [Draft.draft]) {}).mp List.mem_cons_self, ?_⟩
  have hdiscard : Draft.discard ∉ [Draft.submit] := by
    intro h
    have hid := congrArg StepAction.id (List.mem_singleton.mp h)
    simp [Draft.discard, Draft.submit] at hid
  have hkept := (hiff Draft.discard (by simp [Draft.draft]) {}).not.mp hdiscard
  simp only [not_forall, not_not, exists_prop] at hkept
  exact hkept

end WorkflowRequest

end Formwork
