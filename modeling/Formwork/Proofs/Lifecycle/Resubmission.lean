import Formwork.Proofs.Lifecycle.Checking
import Formwork.Proofs.Workflow.Onward
/-!
# Handing in a form once more

A form that is handed in starts its workflow from the beginning, wherever its submission stood
before. Only the status of the submission before can be told from the outcome, and it only where the
template reads it: in the conditions of the form, or in what the workflow does on the way to where
the submission comes to rest.
-/
namespace Formwork

/-! ## Approval -/

def ApprovalLevel.readsStatus (l : ApprovalLevel) : Bool := l.condition.any Group.readsStatus

namespace ApprovalConfig

def readsStatus (c : ApprovalConfig) : Bool :=
  c.skipWhen.any Group.readsStatus || c.levels.any ApprovalLevel.readsStatus

variable {c : ApprovalConfig} (context : Context) (status : Option Status)

theorem levelsFrom_setStatus {levels : List ApprovalLevel}
    (h : levels.any ApprovalLevel.readsStatus = false) (round index : Int) (started : Bool) :
    Chain.levelsFrom (context.setStatus status) round index started levels =
      Chain.levelsFrom context round index started levels := by
  induction levels generalizing index started with
  | nil => rfl
  | cons level rest ih =>
    simp only [List.any_cons, Bool.or_eq_false_iff] at h
    have hasked : level.askedIn (context.setStatus status) = level.askedIn context := by
      simp only [ApprovalLevel.askedIn, Group.holds?_setStatus context status h.1]
      rfl
    simp only [Chain.levelsFrom, hasked, ih h.2]
    rfl

theorem startChain_setStatus (h : c.readsStatus = false) (round : Int) :
    c.startChain (context.setStatus status) round = c.startChain context round := by
  simp only [readsStatus, Bool.or_eq_false_iff] at h
  have hrequired : c.isRequired (context.setStatus status) = c.isRequired context := by
    unfold isRequired
    cases hskip : c.skipWhen with
    | none => rfl
    | some group =>
      have hgroup : group.readsStatus = false := by simpa [hskip] using h.1
      simp only [group.holds_setStatus context status hgroup]
  simp only [startChain, hrequired, levelsFrom_setStatus context status h.2]

end ApprovalConfig

/-! ## Steps -/

/-- Whether anything reads the status that happens as a submission comes to a step and, where the
step asks nobody, moves on from it. -/
def Step.readsStatus (s : Step) (default : Option ApprovalConfig) : Bool :=
  s.onEnter.any Action.readsStatus || (s.kind = .approval &&
    ((s.approval.or default).any ApprovalConfig.readsStatus ||
      (s.followUp? s.onApproved).any fun a =>
        s.onExit.any Action.readsStatus || a.autoActions.any Action.readsStatus))

/-- A submission can come to the step as it starts: the step is the first one, or stands behind
approval steps that may ask nobody. -/
inductive Workflow.Opens (w : Workflow) : Step → Prop
  | start : Opens w w.start
  | behind {step target : Step} {action : StepAction} (passed : Opens w step)
      (kind : step.kind = .approval) (followUp : step.followUp? step.onApproved = some action)
      (found : w.step? action.target = some target) : Opens w target

theorem Workflow.Opens.mem {w : Workflow} {step : Step} (h : w.Opens step) : step ∈ w.steps := by
  cases h with
  | start => exact mem_of_step? w.step?_start
  | behind _ _ _ found => exact mem_of_step? found

/-- A first step that awaits no approval is the only one that a submission comes to as it starts. -/
theorem Workflow.Opens.eq_start {w : Workflow} {step : Step} (h : w.Opens step)
    (hkind : w.start.kind ≠ .approval) : step = w.start := by
  induction h with
  | start => rfl
  | behind _ kind _ _ ih =>
    subst ih
    exact absurd kind hkind

/-- The same surroundings, met at another status. -/
def Surroundings.setStatus (e : Surroundings) (status : Option Status) : Surroundings :=
  { e with context := e.context.setStatus status }

namespace Journey

variable {e : Surroundings} {step : Step} {action : StepAction} (status : Option Status)

theorem perform_setStatus {context : Context} {actions : List Action}
    (h : actions.any Action.readsStatus = false) (source : String) (j : Journey) :
    j.perform source (context.setStatus status) actions = j.perform source context actions := by
  induction actions generalizing j with
  | nil => rfl
  | cons a rest ih =>
    simp only [List.any_cons, Bool.or_eq_false_iff] at h
    simp only [perform, a.update?_setStatus context status h.1,
      a.instruction_setStatus context status h.1, ih h.2]

theorem arrive_setStatus (h : step.readsStatus e.defaultApproval = false) (actor : Option String)
    (j : Journey) : j.arrive (e.setStatus status) step actor = j.arrive e step actor := by
  have hasked : j.asked (e.setStatus status) step = j.asked e step := by
    unfold asked
    by_cases hkind : step.kind = .approval
    · simp only [hkind, ↓reduceIte]
      refine Work.bind_congr_returns fun ids config left hconfig => ?_
      have hchosen : step.approval.or e.defaultApproval = some config :=
        Surroundings.approvalConfig_eq_ok_iff.mp (Work.lift_returns_iff.mp hconfig).1
      simp only [Step.readsStatus, hkind, hchosen, decide_true, Bool.true_and,
        Bool.or_eq_false_iff] at h
      exact ApprovalConfig.startChain_setStatus e.context status h.2.1 _
    · simp only [hkind, ↓reduceIte]
  rw [arrive_eq, arrive_eq, hasked]
  rfl

theorem leave_setStatus (h : step.readsStatus e.defaultApproval = false)
    (hkind : step.kind = .approval) (hfollow : step.followUp? step.onApproved = some action)
    (actor comments : Option String) (j : Journey) :
    j.leave (e.setStatus status) step action actor comments =
      j.leave e step action actor comments := by
  simp only [Step.readsStatus, hkind, hfollow, decide_true, Bool.true_and, Option.any_some,
    Bool.or_eq_false_iff] at h
  obtain ⟨-, -, hexit, hauto⟩ := h
  have hexits (j : Journey) (source : String) :
      j.perform source (e.setStatus status).context step.onExit =
        j.perform source e.context step.onExit :=
    perform_setStatus status hexit source j
  have hautos (j : Journey) (source : String) :
      j.perform source (e.setStatus status).context action.autoActions =
        j.perform source e.context action.autoActions :=
    perform_setStatus status hauto source j
  simp only [leave, hexits, hautos]
  rfl

/-- To enter a step on the way in comes to the same at every status. The induction is on the moves
that are left: whoever is moved on from a step is moved on to one that opens the workflow too. -/
theorem enter_setStatus
    (h : ∀ step, e.workflow.Opens step → step.readsStatus e.defaultApproval = false)
    (hopens : e.workflow.Opens step) (moves : Nat) (actor : Option String) (autoAssign : Bool)
    (j : Journey) : enter (e.setStatus status) moves step actor autoAssign j =
      enter e moves step actor autoAssign j := by
  induction moves using Nat.strongRecOn generalizing step actor autoAssign j with
  | ind moves ih =>
    have hread := h step hopens
    have hperform (source : String) :
        j.perform source (e.setStatus status).context step.onEnter =
          j.perform source e.context step.onEnter := by
      simp only [Step.readsStatus, Bool.or_eq_false_iff] at hread
      exact perform_setStatus status hread.1 source j
    rw [enter_eq, enter_eq, hperform]
    refine bind_congr fun j₁ => ?_
    rw [arrive_setStatus status hread]
    apply Work.bind_congr_returns
    rintro _ ⟨j₂, next⟩ _ harrived
    cases next with
    | none => rfl
    | some action =>
      have hmoves := (arrive_next harrived action).mp rfl
      cases moves with
      | zero => rfl
      | succ fewer =>
        dsimp only [goOn]
        rw [leave_setStatus status hread hmoves.kind hmoves.followUp]
        apply Work.bind_congr_returns
        rintro _ ⟨target, j₃⟩ _ hleft
        have hfound : e.workflow.step? action.target = some target := by
          obtain ⟨there, hthere⟩ := Workflow.has_target (Workflow.Opens.mem hopens)
            (Workflow.mem_of_followUp? hmoves.followUp)
          rw [hthere, leave_target hleft hthere]
        exact ih fewer (Nat.lt_succ_self fewer)
          (.behind hopens hmoves.kind hmoves.followUp hfound) _ _ _

end Journey

theorem Surroundings.start_setStatus {e : Surroundings}
    (h : ∀ step, e.workflow.Opens step → step.readsStatus e.defaultApproval = false)
    (status : Option Status) (s : Submission) : (e.setStatus status).start s = e.start s := by
  have henter := Journey.enter_setStatus status h .start
  unfold start
  refine bind_congr fun state => ?_
  exact congrArg (· >>= fun j => Work.lift (j.transition e none)) (henter _ _ _ _)

/-! ## Handing in -/

namespace FormTemplate

/-- Whether what a submission meets until it comes to rest reads the status that it had before.
Business rules are left out: they run when the submission has been handed in and its status is
new. -/
def ReadsStatus (t : FormTemplate) : Prop :=
  t.formReadsStatus = true ∨ ∃ w step, t.workflow = some w ∧ w.Opens step ∧
    step.readsStatus t.approval = true

/-- Handing in a form, once it is known what it is read against. -/
def submitIn (t : FormTemplate) (s : Submission) (settings : Settings) (load : Load)
    (context : Context) : Work SubmitOutcome := do
  let effects ← Work.lift (t.evaluateForm context)
  let data := effects.merged.applyTo s.data
  let context := { context with data := data }
  let findings ← Work.lift (Validation.checkForm { settings := settings }
    ⟨t.fields, data, effects.merged, context⟩ t.formRules)
  if findings.valid then
    let s := { s with data := data, state := none }
    let started ← t.startWorkflow? s context load
    let results ← BusinessRule.evaluate t.businessRules .onSubmit { trigger := .onSubmit } settings
      (t.stageAfterStart s context load started)
    let maps := effects.merged :: (started.map (·.updates)).toList ++ results.map (·.updates)
    pure ⟨true, data, findings, Updates.mergeAll maps, started, results⟩
  else pure { accepted := false, data := data, findings := findings, updates := effects.merged }

variable {t : FormTemplate} (context : Context) (status : Option Status)

theorem startWorkflow?_setStatus (h : ¬ t.ReadsStatus) (s : Submission) (load : Load) :
    t.startWorkflow? s (context.setStatus status) load = t.startWorkflow? s context load := by
  unfold startWorkflow?
  cases hw : t.workflow with
  | none => rfl
  | some w =>
    have hopens (step : Step) (opens : w.Opens step) : step.readsStatus t.approval = false := by
      rw [← Bool.not_eq_true]
      exact fun reads => h (.inr ⟨w, step, hw, opens, reads⟩)
    have hstart := Surroundings.start_setStatus (e := ⟨w, context, load, t.approval⟩) hopens status s
    exact congrArg (· >>= fun started => pure (some started)) hstart

/-- Business rules see the status to which the submission has come, and no earlier one. -/
theorem stageAfterStart_setStatus (s : Submission) (load : Load) (started : Option Transition) :
    t.stageAfterStart s (context.setStatus status) load started =
      t.stageAfterStart s context load started := by
  cases started with
  | none => rfl
  | some started => rfl

theorem submitIn_setStatus (h : ¬ t.ReadsStatus) (s : Submission) (settings : Settings)
    (load : Load) : t.submitIn s settings load (context.setStatus status) =
      t.submitIn s settings load context := by
  have hform : t.formReadsStatus = false := by
    rw [← Bool.not_eq_true]
    exact fun reads => h (.inl reads)
  unfold submitIn
  rw [evaluateForm_setStatus hform]
  refine bind_congr fun effects => ?_
  let data := effects.merged.applyTo s.data
  let filled : Context := { context with data := data }
  have hcheck := checkForm_setStatus hform filled status settings data effects.merged
  refine (congrArg (Work.lift · >>= _) hcheck).trans (bind_congr fun findings => ?_)
  refine if_congr Iff.rfl ?_ rfl
  have hstart := startWorkflow?_setStatus filled status h { s with data := data, state := none } load
  refine (congrArg (· >>= _) hstart).trans (bind_congr fun started => ?_)
  have hstage := t.stageAfterStart_setStatus filled status { s with data := data, state := none }
    load started
  exact congrArg (fun stage => BusinessRule.evaluate t.businessRules .onSubmit
    { trigger := .onSubmit } settings stage >>= _) hstage

/-- Where a submission stood before does not show when its form is handed in once more, unless it
had another status and the template reads the status: the same is accepted or complained about, with
the same values and updates, and the workflow and the business rules come to the same. -/
theorem submit_forgets_state (t : FormTemplate) (s : Submission) (settings : Settings) (load : Load)
    (host : Host) (now : Calendar.Instant) (locale : Option String)
    (before before' : Option SubmissionState)
    (h : t.ReadsStatus → before.map (·.status) = before'.map (·.status)) :
    t.submit { s with state := before } settings load host now locale =
      t.submit { s with state := before' } settings load host now locale := by
  have hsubmit (before : Option SubmissionState) :
      t.submit { s with state := before } settings load host now locale = (do
        Work.beginPass
        t.submitIn s settings load
          ((t.contextFor s settings host now locale).setStatus (before.map (·.status)))) := rfl
  rw [hsubmit, hsubmit]
  by_cases hreads : t.ReadsStatus
  · rw [h hreads]
  · rw [submitIn_setStatus _ _ hreads, submitIn_setStatus _ _ hreads]

end FormTemplate

/-! A trip, on which a remark is asked for under a condition: because it leads abroad, or because it
was rejected before. -/
namespace Trip

def start : Step :=
  { id := "start", name := none, kind := .start, actions := [], approval := none,
    assignment := none, activeStatus := .inProgress, finalStatus := none, onEnter := [],
    onExit := [], onApproved := none, onRejected := none }

def declined : Step := { start with id := "declined", kind := .finish, finalStatus := some .rejected }

def workflow : Workflow where
  steps := [start, declined]
  startId := none
  sound := by decide

def remark (asked : Condition) : Field :=
  { id := "remark",
    demands := { required := true, requiredWhen := some { nodes := [.leaf asked] } } }

def template (asked : Condition) : FormTemplate :=
  { id := "trip", fields := [{ id := "place" }, remark asked], workflow := some workflow }

def abroad : Condition := { field := "place", operator := .equals, value := .text "abroad" }

def again : Condition :=
  { field := "status", operator := .equals, value := .text "REJECTED", source := .submissionStatus }

def request (before : Option SubmissionState) : Submission :=
  { id := "S1", data := [("place", .text "Rome")], submitter := ⟨"u1", none, [], []⟩,
    state := before }

def rejected : SubmissionState := { step := "declined", status := .rejected }

def noon : Calendar.Instant := ⟨43200000000, Calendar.halfDay_lt_microCount⟩

def submit (asked : Condition) (before : Option SubmissionState) : Work SubmitOutcome :=
  (template asked).submit (request before) {} {} {} noon none

theorem not_readsStatus_abroad : ¬ (template abroad).ReadsStatus := by
  rintro (hform | ⟨w, step, hworkflow, hopens, hstep⟩)
  · exact absurd hform (by decide)
  · cases hworkflow
    have heq := hopens.eq_start (by decide)
    subst heq
    exact absurd hstep (by decide)

theorem read_again :
    (FormTemplate.decoder {} (template again).document {}).1 = .ok (template again) := by
  with_unfolding_all rfl

theorem accepted_again : ((submit again none).answer? {}).map (·.accepted) = some true ∧
    ((submit again (some rejected)).answer? {}).map (·.accepted) = some false := by
  decide +kernel

end Trip

namespace FormTemplate

theorem submit_forgets_state_abroad : ¬ (Trip.template Trip.abroad).ReadsStatus ∧
    Trip.submit Trip.abroad (some Trip.rejected) = Trip.submit Trip.abroad none :=
  ⟨Trip.not_readsStatus_abroad, (Trip.template Trip.abroad).submit_forgets_state
    (Trip.request none) {} {} {} Trip.noon none (some Trip.rejected) none
    fun h => absurd h Trip.not_readsStatus_abroad⟩

/-- A request that was rejected is asked for a remark, without which it was accepted at first. -/
theorem not_always_forgets_state : ¬ ∀ (t : FormTemplate) (s : Submission) (settings : Settings)
    (load : Load) (host : Host) (now : Calendar.Instant) (locale : Option String)
    (before before' : Option SubmissionState),
    (∃ document ids, (FormTemplate.decoder host document ids).1 = .ok t) →
    ((t.submit { s with state := before } settings load host now locale).answer? {}).map
        (·.accepted) =
      ((t.submit { s with state := before' } settings load host now locale).answer? {}).map
        (·.accepted) := by
  intro hforgets
  have hsame := hforgets (Trip.template Trip.again) (Trip.request none) {} {} {} Trip.noon none none
    (some Trip.rejected) ⟨_, {}, Trip.read_again⟩
  have hfirst := Trip.accepted_again.1
  have hsecond := Trip.accepted_again.2
  rw [Trip.submit, Trip.request] at hfirst hsecond
  rw [Trip.request, hfirst, hsecond] at hsame
  simp at hsame

end FormTemplate
end Formwork
