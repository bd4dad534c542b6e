import Formwork.Proofs.Approval.History
/-!
# When a decision is refused

A request is asked five questions in a fixed order: whether the submission has a state, whether the
version that was read is still the present one, whether approval is awaited, whether whoever decides
is asked now, and, where the record is handed over, to whom. The first one without an answer is what
the refusal speaks of, and a request that answers all of them is carried out.
-/
namespace Formwork

namespace ApprovalRequest

variable {request : ApprovalRequest} {state : SubmissionState} {record : ApprovalRecord}

/-- The request names no version, or the one that the state has. -/
def IsCurrent (request : ApprovalRequest) (state : SubmissionState) : Prop :=
  ∀ version, request.expectedVersion = some version → version = state.version

theorem IsCurrent.of_none (anyVersion : request.expectedVersion = none) :
    request.IsCurrent state := by
  intro version given
  rw [anyVersion] at given
  cases given

/-- A delegate is named by the request or by the record. -/
def NamesDelegate (request : ApprovalRequest) (record : ApprovalRecord) : Prop :=
  (∃ delegate, request.delegate = some delegate ∧ delegate ≠ "") ∨
    ∃ delegate, record.delegate = some delegate ∧ delegate ≠ ""

/-- The request answers every question, and the record is the one that it decides. -/
structure Accepted (request : ApprovalRequest) (state : SubmissionState)
    (record : ApprovalRecord) : Prop where
  inState : request.submission.state = some state
  current : request.IsCurrent state
  awaited : state.status = .pendingApproval
  asked : state.chain.actionableBy? request.approver request.roles = some record
  handedOver : request.decision = .delegate → request.NamesDelegate record

/-- The question that a request leaves open, with the refusal for it. -/
inductive Refused (request : ApprovalRequest) : Failure → Prop
  | stateless (noState : request.submission.state = none) :
      Refused request (.refuse .invalidState "Submission has no workflow state"
        [request.submission.detail])
  | stale {state : SubmissionState} {version : Int}
      (inState : request.submission.state = some state)
      (given : request.expectedVersion = some version) (changed : version ≠ state.version) :
      Refused request (.refuse .concurrency
        "Submission was modified by another decision; re-read and retry"
        [request.submission.detail, ("expected_version", .int version),
          ("actual_version", .int state.version)])
  | notAwaited {state : SubmissionState} (inState : request.submission.state = some state)
      (current : request.IsCurrent state) (other : state.status ≠ .pendingApproval) :
      Refused request (.refuse .invalidState
        s!"Submission is {state.status.name}, not awaiting approval"
        [request.submission.detail, ("status", Document.ofNamed state.status)])
  | notAsked {state : SubmissionState} (inState : request.submission.state = some state)
      (current : request.IsCurrent state) (awaited : state.status = .pendingApproval)
      (nobody : ∀ record ∈ state.chain.actionable,
        record.admits request.approver request.roles = false) :
      Refused request (.refuse .unauthorized "Approver is not expected to act on this submission"
        [request.submission.detail, ("approver_id", .text request.approver)])
  | toNobody {state : SubmissionState} {record : ApprovalRecord}
      (inState : request.submission.state = some state) (current : request.IsCurrent state)
      (awaited : state.status = .pendingApproval)
      (asked : state.chain.actionableBy? request.approver request.roles = some record)
      (delegates : request.decision = .delegate) (unnamed : ¬ request.NamesDelegate record) :
      Refused request (.refuse .validation "Delegation requires a delegate"
        [("record_id", .text record.id)])

/-! ## The record that is decided -/

theorem target_of_stateless (noState : request.submission.state = none) :
    request.target = .error (.refuse .invalidState "Submission has no workflow state"
      [request.submission.detail]) := by
  have hstate : request.submission.requireState =
      .error (.refuse .invalidState "Submission has no workflow state"
        [request.submission.detail]) := by
    unfold Submission.requireState
    rw [noState]
  unfold target
  dsimp only
  rw [hstate, Work.except_error_bind]

/-- A decision on a version that is not the present one is refused before anything else is asked. -/
theorem target_of_stale {version : Int} (inState : request.submission.state = some state)
    (given : request.expectedVersion = some version) (changed : version ≠ state.version) :
    request.target = .error (.refuse .concurrency
      "Submission was modified by another decision; re-read and retry"
      [request.submission.detail, ("expected_version", .int version),
        ("actual_version", .int state.version)]) := by
  have hstate : request.submission.requireState = .ok state := by
    unfold Submission.requireState
    rw [inState]
  unfold target
  dsimp only
  rw [hstate, Work.except_ok_bind, given]
  simp only [ne_eq, changed, not_false_eq_true, ↓reduceIte]
  rfl

theorem target_of_current (inState : request.submission.state = some state)
    (current : request.IsCurrent state) :
    request.target =
      if state.status ≠ .pendingApproval then
        .error (.refuse .invalidState s!"Submission is {state.status.name}, not awaiting approval"
          [request.submission.detail, ("status", Document.ofNamed state.status)])
      else
        match state.chain.actionableBy? request.approver request.roles with
        | some record => .ok (state, record)
        | none => .error (.refuse .unauthorized "Approver is not expected to act on this submission"
            [request.submission.detail, ("approver_id", .text request.approver)]) := by
  have hstate : request.submission.requireState = .ok state := by
    unfold Submission.requireState
    rw [inState]
  unfold target
  dsimp only
  rw [hstate, Work.except_ok_bind]
  cases hversion : request.expectedVersion with
  | none => rfl
  | some version =>
    have hsame : version = state.version := current version hversion
    simp only [hsame, ne_eq, not_true_eq_false, ↓reduceIte]
    rfl

theorem Accepted.target (h : request.Accepted state record) :
    request.target = .ok (state, record) := by
  rw [target_of_current h.inState h.current, h.asked]
  simp [h.awaited]

/-! ## The decision on it -/

theorem actionableBy?_eq_none_iff {c : Chain} {actor : String} {roles : List String} :
    c.actionableBy? actor roles = none ↔
      ∀ record ∈ c.actionable, record.admits actor roles = false := by
  simp [Chain.actionableBy?]

theorem delegateOf?_eq_none_iff :
    Chain.delegateOf? record request.verdict = none ↔ ¬ request.NamesDelegate record := by
  have hnone : ∀ given : Option String,
      given.filter (!·.isEmpty) = none ↔ ¬ ∃ delegate, given = some delegate ∧ delegate ≠ "" := by
    intro given
    cases given <;> simp
  unfold Chain.delegateOf? NamesDelegate
  rw [Option.or_eq_none_iff, hnone, hnone, not_or]
  rfl

theorem Accepted.returns (h : request.Accepted state record) (distinct : state.chain.Distinct)
    (ids : Ids) : ∃ o left, request.process.Returns ids o left := by
  have hrecord := Chain.record?_of_mem distinct (Chain.actionableBy?_eq_some h.asked).1
  unfold process
  rw [h.target, Work.lift_ok_bind]
  dsimp only
  unfold Chain.decide
  rw [hrecord]
  dsimp only
  split
  · exact ⟨_, ids, Work.pure_returns_iff.mpr ⟨rfl, rfl⟩⟩
  · exact ⟨_, ids, Work.pure_returns_iff.mpr ⟨rfl, rfl⟩⟩
  · rename_i hdelegate
    have hnamed := h.handedOver hdelegate
    cases hto : Chain.delegateOf? record request.verdict with
    | none => exact absurd hnamed (delegateOf?_eq_none_iff.mp hto)
    | some delegate =>
      refine ⟨state.chain.handOver record (ids.next .approval).1 delegate request.verdict,
        (ids.next .approval).2, ?_⟩
      dsimp only
      rw [Work.bind_returns_iff]
      exact ⟨_, _, Work.fresh_returns_iff.mpr rfl, Work.pure_returns_iff.mpr ⟨rfl, rfl⟩⟩

/-! ## Refusals -/

theorem accepted_or_refused (request : ApprovalRequest) :
    (∃ state record, request.Accepted state record) ∨ ∃ f, request.Refused f := by
  cases hstate : request.submission.state with
  | none => exact .inr ⟨_, .stateless hstate⟩
  | some state =>
    by_cases hcurrent : request.IsCurrent state
    · by_cases hawaited : state.status = .pendingApproval
      · cases hasked : state.chain.actionableBy? request.approver request.roles with
        | none =>
          exact .inr ⟨_, .notAsked hstate hcurrent hawaited (actionableBy?_eq_none_iff.mp hasked)⟩
        | some record =>
          by_cases hto : request.decision = .delegate ∧ ¬ request.NamesDelegate record
          · exact .inr ⟨_, .toNobody hstate hcurrent hawaited hasked hto.1 hto.2⟩
          · refine .inl ⟨state, record, hstate, hcurrent, hawaited, hasked, ?_⟩
            simpa using hto
      · exact .inr ⟨_, .notAwaited hstate hcurrent hawaited⟩
    · simp only [IsCurrent, not_forall] at hcurrent
      obtain ⟨version, hgiven, hchanged⟩ := hcurrent
      exact .inr ⟨_, .stale hstate hgiven hchanged⟩

theorem fails_of_target {f : Failure} (h : request.target = .error f) (ids : Ids) :
    request.process.Fails ids f := by
  unfold process
  rw [h, Work.lift_error_bind, Work.throw_fails_iff]

theorem fails_of_unnamed (distinct : state.chain.Distinct)
    (target : request.target = .ok (state, record)) (mem : record ∈ state.chain)
    (delegates : request.decision = .delegate) (unnamed : ¬ request.NamesDelegate record)
    (ids : Ids) :
    request.process.Fails ids (.refuse .validation "Delegation requires a delegate"
      [("record_id", .text record.id)]) := by
  have hrecord := Chain.record?_of_mem distinct mem
  have hdecision : request.verdict.decision = .delegate := delegates
  unfold process
  rw [target, Work.lift_ok_bind]
  dsimp only
  unfold Chain.decide
  simp only [hrecord, hdecision, delegateOf?_eq_none_iff.mpr unnamed, Work.refuse_fails_iff]

theorem Refused.fails {f : Failure} (h : request.Refused f)
    (distinct : ∀ state, request.submission.state = some state → state.chain.Distinct) (ids : Ids) :
    request.process.Fails ids f := by
  cases h with
  | stateless noState => exact fails_of_target (target_of_stateless noState) ids
  | stale inState given changed => exact fails_of_target (target_of_stale inState given changed) ids
  | notAwaited inState current other =>
    apply fails_of_target
    rw [target_of_current inState current, if_pos other]
  | notAsked inState current awaited nobody =>
    apply fails_of_target
    rw [target_of_current inState current, if_neg (not_not.mpr awaited),
      actionableBy?_eq_none_iff.mpr nobody]
  | toNobody inState current awaited asked delegates unnamed =>
    apply fails_of_unnamed (distinct _ inState) ?_ (Chain.actionableBy?_eq_some asked).1 delegates
      unnamed
    rw [target_of_current inState current, if_neg (not_not.mpr awaited), asked]

/-- A decision is made if and only if the submission has a state, nobody has changed it since it was
read, it awaits approval, whoever decides could approve now, and there is somebody to hand the record
over to where that is the decision. Otherwise it is refused, and for the first of these that fails. -/
theorem process_outcome (request : ApprovalRequest)
    (distinct : ∀ state, request.submission.state = some state → state.chain.Distinct) (ids : Ids) :
    ((∃ o left, request.process.Returns ids o left) ↔
      ∃ state, request.submission.state = some state ∧ request.IsCurrent state ∧
        state.status = .pendingApproval ∧
        request.submission.canApprove request.approver request.roles = true ∧
        (request.decision = .delegate → ∀ record,
          state.chain.actionableBy? request.approver request.roles = some record →
            request.NamesDelegate record)) ∧
    ∀ f, request.process.Fails ids f ↔ request.Refused f := by
  constructor
  · constructor
    · rintro ⟨o, left, returned⟩
      rcases request.accepted_or_refused with ⟨state, record, accepted⟩ | ⟨f, refused⟩
      · refine ⟨state, accepted.inState, accepted.current, accepted.awaited, ?_, ?_⟩
        · simp [Submission.canApprove, accepted.inState, accepted.awaited, accepted.asked]
        · intro delegates other hother
          rw [accepted.asked, Option.some.injEq] at hother
          exact hother ▸ accepted.handedOver delegates
      · exact absurd (refused.fails distinct ids) returned.not_fails
    · rintro ⟨state, inState, current, awaited, able, handedOver⟩
      have hasked : (state.chain.actionableBy? request.approver request.roles).isSome = true := by
        simpa [Submission.canApprove, inState, awaited] using able
      obtain ⟨record, asked⟩ := Option.isSome_iff_exists.mp hasked
      have accepted : request.Accepted state record :=
        ⟨inState, current, awaited, asked, fun delegates => handedOver delegates record asked⟩
      exact accepted.returns (distinct state inState) ids
  · intro f
    refine ⟨fun failed => ?_, fun refused => refused.fails distinct ids⟩
    rcases request.accepted_or_refused with ⟨state, record, accepted⟩ | ⟨g, refused⟩
    · obtain ⟨o, left, returned⟩ := accepted.returns (distinct state accepted.inState) ids
      exact absurd failed returned.not_fails
    · exact failed.unique (refused.fails distinct ids) ▸ refused

/-- Ann hands her record over to Dan, and could not hand it over to nobody. -/
theorem process_outcome_handOver :
    let toDan := { Purchase.byAnn with decision := .delegate, delegate := some "dan" }
    let toNobody := { Purchase.byAnn with decision := .delegate }
    (∀ state, toDan.submission.state = some state → state.chain.Distinct) ∧
    (∃ o left, toDan.process.Returns {} o left) ∧
    toNobody.process.Fails {} (.refuse .validation "Delegation requires a delegate"
      [("record_id", .text "APR-000000000001")]) := by
  intro toDan toNobody
  have distinct : ∀ state, toDan.submission.state = some state → state.chain.Distinct := by
    rintro state hstate
    obtain rfl := Option.some.inj hstate
    exact Purchase.distinct
  have hasked : Chain.actionableBy? [Purchase.ann, Purchase.chief] "ann" [] = some Purchase.ann := by
    cbv
  refine ⟨distinct, (process_outcome toDan distinct {}).1.mpr ?_,
    ((process_outcome toNobody distinct {}).2 _).mpr ?_⟩
  · exact ⟨_, rfl, .of_none rfl, rfl, by cbv, fun _ _ _ => .inl ⟨"dan", rfl, by decide⟩⟩
  · have hunnamed : ¬ toNobody.NamesDelegate Purchase.ann := by
      rintro (⟨delegate, hgiven, -⟩ | ⟨delegate, hgiven, -⟩) <;> cases hgiven
    exact .toNobody rfl (.of_none rfl) rfl hasked rfl hunnamed

end ApprovalRequest
end Formwork
