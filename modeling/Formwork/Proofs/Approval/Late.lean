import Formwork.Proofs.Approval.History
import Formwork.Proofs.Workflow.Books
/-!
# Late escalations

An escalation names a record, and is carried out on it however the chain has moved on since it was
found. While the record is still asked that does no harm. A record that has been decided is written
over, though, and one that is handed over at a level that is not asked brings that level back.
-/
namespace Formwork

open Calendar

/-- The record has been decided by nobody else than the escalation, at the same time. -/
def ApprovalRecord.Bears (t : ApprovalRecord) (status : ApprovalStatus) (e : Escalation)
    (time : Stamp) : Prop :=
  t.status = status ∧ t.decidedBy = some Escalation.system ∧ t.decidedAt = some time ∧
    t.comments = some e.comment

/-- To whom an escalation hands a record over. -/
def Escalation.delegateFor? (e : Escalation) (t : ApprovalRecord) : Option String :=
  (e.delegate.filter (!·.isEmpty)).or (t.delegate.filter (!·.isEmpty))

namespace Chain

variable {c c' : Chain} {t : ApprovalRecord} {e : Escalation} {time : Stamp}

/-- The chains that await approval: those to which the moves of one round lead, and those of
submissions in a workflow. -/
inductive Awaited : Chain → Prop
  | inRound {config : ApprovalConfig} {context : Context} {round : Int} {ids left : Ids}
      {start c : Chain} {turns : List Turn}
      (started : (config.startChain context round).Returns ids start left) (nonempty : start ≠ [])
      (distinct : start.Distinct) (run : Run start turns c .pendingApproval) : Awaited c
  | inWorkflow {w : Workflow} {s : SubmissionState} (reached : w.DulyReached s)
      (pending : s.status = .pendingApproval) : Awaited s.chain

/-- What was decided is left as it is, and those who are asked are asked at the level that was
asked before. -/
structure Unharmed (c c' : Chain) : Prop where
  decided : ∀ r ∈ c, r.status.isOpen = false → ∃ s ∈ c', s.id = r.id ∧ s.status = r.status ∧
    s.decidedBy = r.decidedBy ∧ s.decidedAt = r.decidedAt ∧ s.comments = r.comments
  oneLevel : ∀ s ∈ c', s.status = .pending → ∃ a ∈ c.actionable, s.isBeside a = true

/-! ## What is awaited -/

theorem Awaited.cases (h : c.Awaited) : c.Distinct ∧ (c.Closed ∨ ∃ round, c.AwaitsIn round) := by
  cases h with
  | @inRound config context round _ _ start _ turns started nonempty distinct run =>
    obtain ⟨⟨first, hfirst⟩, -⟩ := config.startChain_stands started nonempty distinct
    obtain ⟨level, hphase, -⟩ := run.phase hfirst
    exact ⟨hphase.sound.distinct, .inr ⟨round, hphase.stands.awaitsIn⟩⟩
  | inWorkflow reached _ =>
    refine ⟨reached.distinct, ?_⟩
    rcases reached.consistent.chain with hclosed | ⟨hawaits, -⟩
    · exact .inl hclosed
    · exact .inr ⟨_, hawaits⟩

theorem Awaited.beside_of_pending (h : c.Awaited) (ht : t ∈ c) (hp : t.status = .pending) :
    ∃ a ∈ c.actionable, t.isBeside a = true := by
  rcases h.cases.2 with hclosed | ⟨round, hawaits⟩
  · exact absurd hp (hclosed.not_pending ht)
  · have hopen : t.status.isOpen = true := by simp [hp, ApprovalStatus.isOpen]
    have hlatest : t ∈ c.latest := by
      rw [← hawaits.counted.ofRound_eq_latest]
      exact List.mem_filter.mpr ⟨ht, by simp [hawaits.round_of_open ht hopen]⟩
    obtain ⟨a, ha⟩ := List.exists_mem_of_ne_nil _ (actionable_ne_nil hlatest hp)
    obtain ⟨hac, hap⟩ := pending_of_mem_actionable ha
    have haopen : a.status.isOpen = true := by simp [hap, ApprovalStatus.isOpen]
    refine ⟨a, ha, ?_⟩
    simp [ApprovalRecord.isBeside, hawaits.round_of_open ht hopen,
      hawaits.round_of_open hac haopen, hawaits.one_level ht hac hp hap]

/-! ## What an escalation leaves -/

theorem mem_markEscalated_ne (h : c.Distinct) (ht : t ∈ c) {r : ApprovalRecord} :
    r ∈ c.markEscalated t.id ∧ r ≠ t.marked ↔ r ∈ c ∧ r ≠ t := by
  rw [markEscalated_eq_map, mem_map_one h ht]
  constructor
  · rintro ⟨hr | hr, hne⟩
    · exact hr
    · exact absurd hr hne
  · rintro ⟨hr, hne⟩
    refine ⟨.inl ⟨hr, hne⟩, ?_⟩
    rintro rfl
    exact hne (h.eq_of_id hr ht rfl)

theorem mem_reject_marked (h : c.Distinct) (ht : t ∈ c) (v : Verdict) {s : ApprovalRecord} :
    s ∈ ((c.markEscalated t.id).reject t.marked v).chain ↔
      (∃ r ∈ c, r ≠ t ∧ r.dropped t = s) ∨ s = t.marked.decideAs .rejected v := by
  have hwritten : ∀ r : ApprovalRecord,
      r ∈ (c.markEscalated t.id).write t.marked.id .rejected v ↔
        (r ∈ c ∧ r ≠ t) ∨ r = t.marked.decideAs .rejected v := by
    intro r
    rw [mem_write (h.mark t.id) (mem_marked h ht), mem_markEscalated_ne h ht]
  have hclosed : (t.marked.decideAs .rejected v).dropped t = t.marked.decideAs .rejected v :=
    ApprovalRecord.dropped_of_closed rfl
  have hdropped : ∀ r : ApprovalRecord, r.dropped t.marked = r.dropped t := fun _ => rfl
  rw [reject_eq_map, List.mem_map]
  simp only [hwritten, hdropped]
  constructor
  · rintro ⟨r, ⟨hr, hne⟩ | rfl, rfl⟩
    · exact .inl ⟨r, hr, hne, rfl⟩
    · exact .inr hclosed
  · rintro (⟨r, hr, hne, rfl⟩ | rfl)
    · exact ⟨r, .inl ⟨hr, hne⟩, rfl⟩
    · exact ⟨_, .inr rfl, hclosed⟩

theorem mem_handOver_marked (h : c.Distinct) (ht : t ∈ c) {id delegate : String} {v : Verdict}
    {s : ApprovalRecord} :
    s ∈ ((c.markEscalated t.id).handOver t.marked id delegate v).chain ↔
      (s ∈ c ∧ s ≠ t) ∨ s = t.marked.handedTo delegate v ∨
        s = t.marked.replacement id delegate v := by
  rw [mem_handOver (h.mark t.id) (mem_marked h ht), mem_markEscalated_ne h ht]

section Harm

variable (h : c.Awaited) (ht : t ∈ c) (e) (time)

include h ht

theorem Awaited.unharmed_mark : c.Unharmed (c.markEscalated t.id) where
  decided r hr _ := by
    by_cases hrt : r = t
    · rw [hrt]
      exact ⟨t.marked, mem_marked h.cases.1 ht, rfl, rfl, rfl, rfl, rfl⟩
    · exact ⟨r, ((mem_markEscalated_ne h.cases.1 ht).mpr ⟨hr, hrt⟩).1, rfl, rfl, rfl, rfl, rfl⟩
  oneLevel s hs hp := by
    by_cases hst : s = t.marked
    · rw [hst] at hp ⊢
      obtain ⟨a, ha, hbeside⟩ := h.beside_of_pending ht hp
      exact ⟨a, ha, hbeside⟩
    · exact h.beside_of_pending ((mem_markEscalated_ne h.cases.1 ht).mp ⟨hs, hst⟩).1 hp

/-- A rejection that comes late writes over a decision, unless it is that very decision. -/
theorem Awaited.unharmed_reject_iff :
    c.Unharmed ((c.markEscalated t.id).reject t.marked
        ⟨.reject, Escalation.system, some e.comment, none, time⟩).chain ↔
      (t.status.isOpen = true ∨ t.Bears .rejected e time) := by
  have hdistinct := h.cases.1
  constructor
  · intro hunharmed
    cases hopen : t.status.isOpen with
    | true => exact .inl rfl
    | false =>
      right
      obtain ⟨s, hs, hid, hstatus, hby, hat, hcomments⟩ := hunharmed.decided t ht hopen
      rcases (mem_reject_marked hdistinct ht _).mp hs with ⟨r, hr, hne, rfl⟩ | rfl
      · rw [(r.sameSeat_dropped t).id] at hid
        exact absurd (hdistinct.eq_of_id hr ht hid) hne
      · exact ⟨hstatus.symm, hby.symm, hat.symm, hcomments.symm⟩
  · intro hharmless
    constructor
    case decided =>
      intro r hr hclosed
      by_cases hrt : r = t
      · subst hrt
        rcases hharmless with hopen | ⟨hstatus, hby, hat, hcomments⟩
        · rw [hclosed] at hopen
          cases hopen
        · exact ⟨_, (mem_reject_marked hdistinct ht _).mpr (.inr rfl), rfl, hstatus.symm, hby.symm,
            hat.symm, hcomments.symm⟩
      · refine ⟨r, (mem_reject_marked hdistinct ht _).mpr (.inl ⟨r, hr, hrt, ?_⟩), rfl, rfl, rfl, rfl,
          rfl⟩
        exact ApprovalRecord.dropped_of_closed hclosed
    case oneLevel =>
      intro s hs hp
      rcases (mem_reject_marked hdistinct ht _).mp hs with ⟨r, hr, -, rfl⟩ | rfl
      · have hkept : r.dropped t = r := by
          unfold ApprovalRecord.dropped at hp ⊢
          split at hp
          · cases hp
          · rename_i hother
            exact if_neg hother
        rw [hkept] at hp ⊢
        exact h.beside_of_pending hr hp
      · cases hp

/-- A record that is handed over late is written over as well, and its delegate may be asked at a
level that is not asked. -/
theorem Awaited.unharmed_handOver_iff (id delegate : String) :
    c.Unharmed ((c.markEscalated t.id).handOver t.marked id delegate
        ⟨.delegate, Escalation.system, some e.comment, e.delegate, time⟩).chain ↔
      (t.status.isOpen = true ∨ t.Bears .delegated e time) ∧
        ∃ a ∈ c.actionable, t.isBeside a = true := by
  have hdistinct := h.cases.1
  constructor
  · intro hunharmed
    constructor
    · cases hopen : t.status.isOpen with
      | true => exact .inl rfl
      | false =>
        right
        obtain ⟨s, hs, hid, hstatus, hby, hat, hcomments⟩ := hunharmed.decided t ht hopen
        rcases (mem_handOver_marked hdistinct ht).mp hs with ⟨hsc, hne⟩ | rfl | rfl
        · exact absurd (hdistinct.eq_of_id hsc ht hid) hne
        · exact ⟨hstatus.symm, hby.symm, hat.symm, hcomments.symm⟩
        · rw [← hstatus] at hopen
          cases hopen
    · have hnew : t.marked.replacement id delegate
          ⟨.delegate, Escalation.system, some e.comment, e.delegate, time⟩ ∈ _ :=
        (mem_handOver_marked hdistinct ht).mpr (.inr (.inr rfl))
      obtain ⟨a, ha, hbeside⟩ := hunharmed.oneLevel _ hnew rfl
      exact ⟨a, ha, hbeside⟩
  · rintro ⟨hharmless, hbeside⟩
    constructor
    case decided =>
      intro r hr hclosed
      by_cases hrt : r = t
      · subst hrt
        rcases hharmless with hopen | ⟨hstatus, hby, hat, hcomments⟩
        · rw [hclosed] at hopen
          cases hopen
        · exact ⟨_, (mem_handOver_marked hdistinct ht).mpr (.inr (.inl rfl)), rfl, hstatus.symm,
            hby.symm, hat.symm, hcomments.symm⟩
      · exact ⟨r, (mem_handOver_marked hdistinct ht).mpr (.inl ⟨hr, hrt⟩), rfl, rfl, rfl, rfl, rfl⟩
    case oneLevel =>
      intro s hs hp
      rcases (mem_handOver_marked hdistinct ht).mp hs with ⟨hsc, -⟩ | rfl | rfl
      · exact h.beside_of_pending hsc hp
      · cases hp
      · exact hbeside

theorem Awaited.unharmed_escalate_iff (hid : t.id = e.record) :
    (∀ ids o left, (c.escalate .pendingApproval e time).Returns ids o left → c.Unharmed o.chain) ↔
      (e.policy = .autoReject → t.status.isOpen = true ∨ t.Bears .rejected e time) ∧
      (e.policy = .delegate → e.delegateFor? t ≠ none →
        (t.status.isOpen = true ∨ t.Bears .delegated e time) ∧
          ∃ a ∈ c.actionable, t.isBeside a = true) := by
  have hrecord : (c.markEscalated t.id).record? t.id = some t.marked :=
    record?_of_mem (h.cases.1.mark t.id) (mem_marked h.cases.1 ht)
  unfold escalate
  rw [← hid]
  cases hpolicy : e.policy with
  | notifyOnly =>
    simp only [Escalation.verdict?, hpolicy, Work.pure_returns_iff, reduceCtorEq, false_implies,
      and_true, iff_true]
    rintro ids o left ⟨rfl, -⟩
    exact h.unharmed_mark ht
  | autoReject =>
    simp only [Escalation.verdict?, hpolicy, decide, hrecord, Work.pure_returns_iff, forall_const,
      reduceCtorEq, false_implies, and_true]
    rw [← h.unharmed_reject_iff e time ht]
    exact ⟨fun hall => hall {} _ {} ⟨rfl, rfl⟩, fun hunharmed ids o left ho => ho.1 ▸ hunharmed⟩
  | delegate =>
    have hgiven : delegateOf? t.marked
        ⟨.delegate, Escalation.system, some e.comment, e.delegate, time⟩ = e.delegateFor? t := rfl
    simp only [Escalation.verdict?, hpolicy, decide, hrecord, hgiven, forall_const, reduceCtorEq,
      false_implies, true_and]
    cases hdelegate : e.delegateFor? t with
    | none => simp
    | some delegate =>
      simp only [Work.bind_returns_iff, Work.pure_returns_iff, ne_eq, reduceCtorEq,
        not_false_eq_true, forall_const]
      constructor
      · intro hall
        rw [← h.unharmed_handOver_iff e time ht (Ids.next .approval {}).1 delegate]
        exact hall {} _ _ ⟨_, _, Work.fresh_returns_iff.mpr rfl, rfl, rfl⟩
      · rintro hharmless ids o left ⟨fresh, between, -, rfl, -⟩
        exact (h.unharmed_handOver_iff e time ht fresh delegate).mpr hharmless

omit ht in
theorem Awaited.unharmed_escalate_of_absent (absent : ∀ t ∈ c, t.id ≠ e.record)
    {ids left : Ids} {o : ApprovalOutcome}
    (returned : (c.escalate .pendingApproval e time).Returns ids o left) : c.Unharmed o.chain := by
  have hsame : c.markEscalated e.record = c := by
    rw [markEscalated_eq_map]
    conv_rhs => rw [← List.map_id' c]
    exact List.map_congr_left fun r hr => if_neg (absent r hr)
  have hnone : c.record? e.record = none :=
    List.find?_eq_none.mpr fun r hr => by simpa using absent r hr
  unfold escalate at returned
  rw [hsame] at returned
  dsimp only at returned
  split at returned
  · simp [decide, hnone] at returned
  · simp only [Work.pure_returns_iff] at returned
    rw [← returned.1]
    exact ⟨fun r hr _ => ⟨r, hr, rfl, rfl, rfl, rfl, rfl⟩,
      fun s hs hp => h.beside_of_pending hs hp⟩

end Harm

/-- An escalation that comes late does no harm exactly where the record that it names is still open,
or bears what it would write; and where it hands the record over, the record is at the level that is
asked. An escalation that is due does none. -/
theorem Awaited.unharmed_iff {submission : Submission} {state : SubmissionState}
    (awaited : state.chain.Awaited) (onState : submission.state = some state)
    (pending : state.status = .pendingApproval) (e : Escalation) (time : Stamp) :
    ((∀ ids o left, (submission.escalate e time).Returns ids o left →
        state.chain.Unharmed o.chain) ↔
      ∀ t ∈ state.chain, t.id = e.record →
        (e.policy = .autoReject → t.status.isOpen = true ∨ t.Bears .rejected e time) ∧
        (e.policy = .delegate → e.delegateFor? t ≠ none →
          (t.status.isOpen = true ∨ t.Bears .delegated e time) ∧
            ∃ a ∈ state.chain.actionable, t.isBeside a = true)) ∧
    ∀ settings now due, state.chain.escalations settings now = .ok due → e ∈ due →
      ∀ ids o left, (submission.escalate e time).Returns ids o left →
        state.chain.Unharmed o.chain := by
  have hescalate : submission.escalate e time =
      state.chain.escalate .pendingApproval e time := by
    simp only [Submission.escalate, onState, pending, ↓reduceIte]
  rw [hescalate]
  constructor
  · constructor
    · intro hall t ht hid
      exact (awaited.unharmed_escalate_iff e time ht hid).mp hall
    · intro hharmless ids o left returned
      by_cases hnamed : ∃ t ∈ state.chain, t.id = e.record
      · obtain ⟨t, ht, hid⟩ := hnamed
        have hunharmed := (awaited.unharmed_escalate_iff e time ht hid).mpr (hharmless t ht hid)
        exact hunharmed ids o left returned
      · exact awaited.unharmed_escalate_of_absent e time
          (fun t ht hid => hnamed ⟨t, ht, hid⟩) returned
  · intro settings now due found isDue ids o left returned
    obtain ⟨t, ht, hid, hp, -⟩ := due_of_mem_escalations found isDue
    have hopen : t.status.isOpen = true := by simp [hp, ApprovalStatus.isOpen]
    apply (awaited.unharmed_escalate_iff e time ht hid).mpr _ ids o left returned
    exact ⟨fun _ => .inl hopen, fun _ _ => ⟨.inl hopen, awaited.beside_of_pending ht hp⟩⟩

end Chain

namespace Purchase

/-- What was found while Ann was asked. -/
def late : Escalation := ⟨ann.id, 0, some "ann", none, .delegate, some "dan", 48.0⟩

def state : SubmissionState := { step := "review", status := .pendingApproval, chain := halfway }

def submission : Submission :=
  { id := "S1", submitter := ⟨"sam", none, [], []⟩, state := some state }

theorem awaited_halfway : state.chain.Awaited :=
  .inRound start_returns (by simp) distinct run_halfway

end Purchase

namespace Chain

open Purchase

/-- Once Ann has approved, handing her record over to Dan does harm. -/
theorem Awaited.unharmed_iff_halfway : state.chain.Awaited ∧ submission.state = some state ∧
    state.status = .pendingApproval ∧
    ¬ ∀ ids o left, (submission.escalate late (.ofInstant midnight)).Returns ids o left →
      state.chain.Unharmed o.chain := by
  refine ⟨awaited_halfway, rfl, rfl, ?_⟩
  rw [(Awaited.unharmed_iff awaited_halfway rfl rfl late (.ofInstant midnight)).1]
  intro hharmless
  have hdelegate : late.delegateFor? (approvedBy ann "ann") ≠ none := by
    simp [Escalation.delegateFor?, late]
  have happroved := (hharmless (approvedBy ann "ann") List.mem_cons_self rfl).2 rfl hdelegate
  rcases happroved.1 with hopen | ⟨hstatus, -⟩
  · cases hopen
  · cases hstatus

/-- Ann has approved, but an escalation that was found before hands her record over to Dan: her
approval is gone, and her level is asked again beside the chief's. -/
theorem not_always_unharmed : ¬ ∀ (submission : Submission) (state : SubmissionState)
    (e : Escalation) (time : Stamp) (ids left : Ids) (o : ApprovalOutcome), state.chain.Awaited →
    submission.state = some state → state.status = .pendingApproval →
    (submission.escalate e time).Returns ids o left → state.chain.Unharmed o.chain := by
  intro hall
  have hunharmed := hall submission state late (.ofInstant midnight) ⟨2, 0, 0, some .approval⟩ _ _
    awaited_halfway rfl rfl rfl
  have hann : approvedBy ann "ann" ∈ state.chain := List.mem_cons_self
  obtain ⟨s, hs, hid, hstatus, -⟩ := hunharmed.decided _ hann rfl
  rcases (mem_handOver_marked awaited_halfway.cases.1 hann).mp hs with ⟨hsc, hne⟩ | rfl | rfl
  · exact hne (awaited_halfway.cases.1.eq_of_id hsc hann hid)
  · cases hstatus
  · cases hstatus

end Chain
end Formwork
