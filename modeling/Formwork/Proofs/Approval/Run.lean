import Formwork.Approval.Request
import Formwork.Proofs.Approval.Records
/-!
# Runs of an approval chain

A chain moves when an approver decides or when an escalation that is due is carried out. What one
move may do is said once, in `Chain.Decides` and `Chain.Takes.cases`; a run is any number of moves,
each on what the one before it left, and it remembers on which chain each was made.
-/
namespace Formwork

open Calendar

/-- What moves a chain. -/
inductive Move where
  | decision (request : ApprovalRequest)
  | escalation (e : Escalation)

/-- A move with the chain that it was made on and what came of it. -/
structure Turn where
  before : Chain
  move : Move
  outcome : ApprovalOutcome

namespace Chain

/-- The move is accepted on a chain whose submission has the status. Decisions come with any
submission that has the chain; an escalation is one of those that are due on it at some instant. -/
inductive Takes (c : Chain) (status : Status) : Move → ApprovalOutcome → Prop
  | decision {request : ApprovalRequest} {state : SubmissionState} {ids left : Ids}
      {o : ApprovalOutcome} (onState : request.submission.state = some state)
      (onChain : state.chain = c) (inStatus : state.status = status)
      (returned : request.process.Returns ids o left) : Takes c status (.decision request) o
  | escalation {submission : Submission} {state : SubmissionState} {settings : Settings}
      {now time : Stamp} {due : List Escalation} {e : Escalation} {ids left : Ids}
      {o : ApprovalOutcome} (onState : submission.state = some state) (onChain : state.chain = c)
      (inStatus : state.status = status) (found : c.escalations settings now = .ok due)
      (isDue : e ∈ due) (returned : (submission.escalate e time).Returns ids o left) :
      Takes c status (.escalation e) o

/-- The chains and statuses that accepted moves lead to. A new record has an id of its own. -/
inductive Run (start : Chain) : List Turn → Chain → Status → Prop
  | begun : Run start [] start .pendingApproval
  | moved {turns : List Turn} {c : Chain} {status : Status} {move : Move} {o : ApprovalOutcome}
      (run : Run start turns c status) (takes : c.Takes status move o)
      (fresh : o.chain.Distinct) : Run start (turns ++ [⟨c, move, o⟩]) o.chain o.status

/-- What a decision on a record of a chain comes to. -/
inductive Decides (c : Chain) (t : ApprovalRecord) (v : Verdict) : ApprovalOutcome → Prop
  | approve (h : v.decision = .approve) : Decides c t v (c.approve t v)
  | reject (h : v.decision = .reject) : Decides c t v (c.reject t v)
  | handOver {delegate : String} (id : String) (h : v.decision = .delegate)
      (given : delegateOf? t v = some delegate) : Decides c t v (c.handOver t id delegate v)

theorem decide_returns {c : Chain} {id : String} {v : Verdict} {ids left : Ids}
    {o : ApprovalOutcome} (h : (c.decide id v).Returns ids o left) :
    ∃ t, c.record? id = some t ∧ c.Decides t v o := by
  unfold decide at h
  split at h
  · simp at h
  · rename_i t ht
    refine ⟨t, ht, ?_⟩
    split at h
    · rename_i hv
      simp only [Work.pure_returns_iff] at h
      exact h.1 ▸ .approve hv
    · rename_i hv
      simp only [Work.pure_returns_iff] at h
      exact h.1 ▸ .reject hv
    · rename_i hv
      split at h
      · simp at h
      · rename_i delegate hd
        rw [Work.bind_returns_iff] at h
        obtain ⟨fresh, between, -, h⟩ := h
        simp only [Work.pure_returns_iff] at h
        exact h.1 ▸ .handOver fresh hv hd

end Chain

/-! ## Escalations that are due -/

/-- A record whose escalation is carried out. -/
def ApprovalRecord.marked (r : ApprovalRecord) : ApprovalRecord := { r with escalated := true }

theorem Chain.markEscalated_eq_map (c : Chain) (id : String) :
    c.markEscalated id = c.map fun r => if r.id = id then r.marked else r := by
  simp [markEscalated, ApprovalRecord.marked]

theorem ApprovalRecord.escalation?_eq_some {r : ApprovalRecord} {settings : Settings} {now : Stamp}
    {e : Escalation} (h : r.escalation? settings now = .ok (some e)) :
    r.id = e.record ∧ r.status = .pending ∧ r.escalated = false := by
  unfold escalation? at h
  split at h
  · simp at h
  · rename_i hopen
    have hasked : r.status = .pending ∧ r.escalated = false := by
      simpa [isPending] using hopen
    split at h
    · rw [Work.except_bind_eq_ok_iff] at h
      obtain ⟨waited, -, h⟩ := h
      split at h
      · simp [pure, Except.pure] at h
      · rw [Work.except_bind_eq_ok_iff] at h
        obtain ⟨policy, -, h⟩ := h
        simp only [pure, Except.pure, Except.ok.injEq, Option.some.injEq] at h
        exact ⟨by rw [← h], hasked⟩
    · simp at h

namespace Chain

theorem exists_of_mem_escalations {c : Chain} {settings : Settings} {now : Stamp}
    {due : List Escalation} (found : c.escalations settings now = .ok due) {e : Escalation}
    (he : e ∈ due) : ∃ r ∈ c, r.escalation? settings now = .ok (some e) := by
  induction c generalizing due with
  | nil =>
    simp only [escalations, Except.ok.injEq] at found
    simp [← found] at he
  | cons r rest ih =>
    simp only [escalations, Work.except_bind_eq_ok_iff] at found
    obtain ⟨one, hone, later, hlater, hdue⟩ := found
    simp only [pure, Except.pure, Except.ok.injEq] at hdue
    rw [← hdue] at he
    rcases List.mem_append.mp he with he | he
    · rw [Option.mem_toList.mp he] at hone
      exact ⟨r, by simp, hone⟩
    · obtain ⟨s, hs, hrest⟩ := ih hlater he
      exact ⟨s, List.mem_cons_of_mem _ hs, hrest⟩

theorem due_of_mem_escalations {c : Chain} {settings : Settings} {now : Stamp}
    {due : List Escalation} (found : c.escalations settings now = .ok due) {e : Escalation}
    (he : e ∈ due) :
    ∃ r ∈ c, r.id = e.record ∧ r.status = .pending ∧ r.escalated = false := by
  obtain ⟨r, hr, hfound⟩ := exists_of_mem_escalations found he
  exact ⟨r, hr, ApprovalRecord.escalation?_eq_some hfound⟩

end Chain
end Formwork
