import Formwork.Proofs.Workflow.Books
/-!
# The ledger of approvals

The records of a submission are a ledger. Operations put records behind and in between, and write
into those that are asked or wait; what is decided, and what belongs to an earlier round, is never
written to again.
-/
namespace Formwork

open Calendar

namespace SubmissionState

variable {s t : SubmissionState} {r : WorkflowRequest} {e : Surroundings} {step target : Step}
  {action : StepAction} {op : Operation}

/-! ## Behind a closed chain -/

/-- Records are only put behind, and are of later rounds than were started before. -/
def Appends (s t : SubmissionState) : Prop :=
  ∃ more, t.chain = s.chain ++ more ∧ ∀ a ∈ more, s.round < a.round

theorem Appends.refl (s : SubmissionState) : s.Appends s :=
  ⟨[], (List.append_nil _).symm, fun _ h => absurd h List.not_mem_nil⟩

theorem Appends.mem (h : s.Appends t) {a : ApprovalRecord} (ha : a ∈ s.chain) : a ∈ t.chain := by
  obtain ⟨more, hchain, -⟩ := h
  rw [hchain]
  exact List.mem_append_left _ ha

theorem Appends.ofRound_eq (h : s.Appends t) :
    t.chain.ofRound s.round = s.chain.ofRound s.round := by
  obtain ⟨more, hchain, hlater⟩ := h
  have hnone : more.filter (fun a => a.round == s.round) = [] := by
    rw [List.filter_eq_nil_iff]
    intro a ha
    have hlt := hlater a ha
    simp only [beq_iff_eq]
    omega
  rw [hchain]
  unfold Chain.ofRound
  rw [List.filter_append, hnone, List.append_nil]

theorem Left.chain_of_closed (h : s.Left step action target t) (closed : s.chain.Closed) :
    t.chain = s.chain ∧ t.round = s.round := by
  rw [h.same]
  refine ⟨?_, rfl⟩
  have hsame : ∀ a ∈ s.chain,
      (if a.status.isOpen then { a with status := .skipped } else a : ApprovalRecord) = a := by
    intro a ha
    simp [closed a ha]
  exact (List.map_congr_left hsame).trans (List.map_id' _)

theorem Entered.appends (h : Entered e step s t) (closed : s.chain.Closed) : s.Appends t := by
  induction h with
  | rests rested assigned =>
    refine ⟨[], ?_, fun _ h => absurd h List.not_mem_nil⟩
    rw [List.append_nil, assigned.same, rested.same]
  | @awaits _ s _ _ config records _ _ _ asked nonempty started assigned =>
    refine ⟨records, ?_, ?_⟩
    · rw [assigned.same, started.same]
    · intro a ha
      have hround := (config.startChain_laid asked nonempty).inRound a ha
      omega
  | @passes _ _ _ s u v _ rested _ _ leaves _ ih =>
    have hchain : u.chain = s.chain := by rw [rested.same]
    have hround : u.round = s.round := by rw [rested.same]
    obtain ⟨hleft, hsame⟩ := leaves.chain_of_closed (by rw [hchain]; exact closed)
    obtain ⟨more, hmore, hlater⟩ := ih (by rw [hleft, hchain]; exact closed)
    rw [hleft, hchain] at hmore
    rw [hsame, hround] at hlater
    exact ⟨more, hmore, hlater⟩

theorem GoneOn.appends (h : GoneOn e step s t) (closed : s.chain.Closed) : s.Appends t := by
  cases h with
  | stayed _ => exact .refl s
  | followed _ followed =>
    obtain ⟨target, u, -, hleaves, hentered⟩ := followed
    obtain ⟨hchain, hround⟩ := hleaves.chain_of_closed closed
    obtain ⟨more, hmore, hlater⟩ := hentered.appends (by rw [hchain]; exact closed)
    rw [hchain] at hmore
    rw [hround] at hlater
    exact ⟨more, hmore, hlater⟩

/-! ## Operations -/

/-- An operation touches no decided record: what is decided on is asked, and so is what is found to
be escalated. -/
theorem Performed.lasts (h : Performed r step s op t) (onState : r.submission.state = some s)
    (due : s.Due op) :
    s.chain.Lasts (fun id => ∃ a ∈ s.chain, a.id = id ∧ a.status = .pending) t.chain := by
  cases h with
  | execute _ followed => exact followed.lasts
  | @decide ballot config outcome u _ _ _ processed decided goesOn =>
    obtain ⟨state, a, htarget, hdecided⟩ := ApprovalRequest.process_returns processed
    obtain ⟨hstate, -, hasked⟩ := ApprovalRequest.target_eq_ok htarget
    have hs : state = s := Option.some.inj (hstate.symm.trans onState)
    subst hs
    obtain ⟨ha, hp, -⟩ := Chain.actionableBy?_eq_some hasked
    have htouched : ∀ id, id = a.id → ∃ b ∈ state.chain, b.id = id ∧ b.status = .pending :=
      fun id hid => ⟨a, ha, hid.symm, hp⟩
    have hu : u.chain = outcome.chain := congrArg SubmissionState.chain decided.same
    exact (((Chain.lasts_decide hdecided).mono htouched).trans (.of_eq hu)).trans goesOn.lasts
  | terminate _ _ _ ended =>
    rw [ended.same]
    exact s.lasts_skipOpen
  | @escalate escalations u _ escalated goesOn =>
    obtain ⟨settings, now, hfound⟩ := due escalations rfl
    apply Chain.Lasts.trans _ goesOn.lasts
    apply escalated.lasts.mono
    rintro id ⟨x, hx, rfl⟩
    obtain ⟨a, ha, hid, hp, -⟩ := Chain.due_of_mem_escalations hfound hx
    exact ⟨a, ha, hid, hp⟩

end SubmissionState

/-- A decided record is found again as it is, where ids tell the records apart and none but those
that are asked are touched. -/
theorem Chain.Lasts.decided {c c' : Chain} {r : ApprovalRecord}
    (h : c.Lasts (fun id => ∃ a ∈ c, a.id = id ∧ a.status = .pending) c') (distinct : c.Distinct)
    (hr : r ∈ c) (closed : r.status.isOpen = false) : r ∈ c' := by
  obtain ⟨s, hs, hlasts⟩ := h.found hr
  have huntouched : ¬ ∃ a ∈ c, a.id = r.id ∧ a.status = .pending := by
    rintro ⟨a, ha, hid, hp⟩
    rw [distinct.eq_of_id ha hr hid] at hp
    simp [hp, ApprovalStatus.isOpen] at closed
  rw [← hlasts.decided closed huntouched]
  exact hs

namespace Workflow

open SubmissionState

variable {w : Workflow} {s s' : SubmissionState} {op : Operation}

theorem Calls.lasts (call : w.Calls s op s') (due : s.Due op) :
    s.chain.Lasts (fun id => ∃ a ∈ s.chain, a.id = id ∧ a.status = .pending) s'.chain := by
  cases call with
  | answered _ onState returned =>
    obtain ⟨step, u, -, hperformed, he⟩ := WorkflowRequest.perform_performed returned onState
    rw [he]
    exact hperformed.lasts onState due

/-- The approval records of a submission are an append-only trail. In an operation no id is lost or
moved past another; a record that is neither pending nor waiting stays as it is, and so does every
record of a round before the last one; and no record changes its place or whom it asks. -/
theorem DulyReached.append_only (reached : w.DulyReached s) (due : s.Due op)
    (call : w.Calls s op s') (fresh : s'.chain.Distinct) :
    (s.chain.map (·.id)).Sublist (s'.chain.map (·.id)) ∧
    (∀ r ∈ s.chain, r.status ≠ .pending → r.status ≠ .waiting →
      s'.chain.record? r.id = some r) ∧
    (∀ r ∈ s.chain, r.round < s.round → s'.chain.record? r.id = some r) ∧
    (∀ r ∈ s.chain, ∀ r' ∈ s'.chain, r'.id = r.id →
      r'.level = r.level ∧ r'.position = r.position ∧ r'.round = r.round ∧
        r'.approver = r.approver ∧ r'.role = r.role) := by
  have hlasts := call.lasts due
  have hdecided : ∀ r ∈ s.chain, r.status.isOpen = false → s'.chain.record? r.id = some r :=
    fun r hr hclosed => Chain.record?_of_mem fresh (hlasts.decided reached.distinct hr hclosed)
  refine ⟨hlasts.within, ?decided, ?earlier, ?places⟩
  case decided =>
    intro r hr hpending hwaiting
    apply hdecided r hr
    rw [Bool.eq_false_iff]
    intro hopen
    rcases ApprovalStatus.isOpen_iff.mp hopen with hw | hp
    · exact hwaiting hw
    · exact hpending hp
  case earlier =>
    intro r hr hround
    apply hdecided r hr
    -- Only the last round is open, if any is.
    rcases reached.consistent.chain with hclosed | ⟨hawaits, -⟩
    · exact hclosed r hr
    · rw [Bool.eq_false_iff]
      intro hopen
      have hlast := hawaits.round_of_open hr hopen
      omega
  case places =>
    intro r hr r' hr' hid
    obtain ⟨a, ha, hra⟩ := hlasts.found hr
    have hsame : a = r' := fresh.eq_of_id ha hr' (hra.id.trans hid.symm)
    subst hsame
    exact ⟨hra.level, hra.position, hra.round, hra.approver, hra.role⟩

/-- When Ann approves, neither her record nor Bob's changes its place. -/
theorem DulyReached.append_only_release : ∃ s s', Release.workflow.DulyReached s ∧
    Release.workflow.Calls s (Release.approval "ann") s' ∧ s.chain.actionable ≠ [] ∧
    (s.chain.map (·.id)).Sublist (s'.chain.map (·.id)) ∧
    ∀ r ∈ s.chain, ∀ r' ∈ s'.chain, r'.id = r.id → r'.level = r.level ∧ r'.position = r.position := by
  obtain ⟨s, t, left, hreached, hreturned, hfresh, hasked, -⟩ := Release.duly_decided
  have hcall : Release.workflow.Calls s (Release.approval "ann") t.state :=
    .answered rfl rfl hreturned
  obtain ⟨hwithin, -, -, hplaces⟩ :=
    DulyReached.append_only hreached (fun _ he => by cases he) hcall hfresh
  refine ⟨s, t.state, hreached, hcall, hasked, hwithin, ?_⟩
  intro r hr r' hr' hid
  obtain ⟨hlevel, hposition, -⟩ := hplaces r hr r' hr' hid
  exact ⟨hlevel, hposition⟩

end Workflow
end Formwork
