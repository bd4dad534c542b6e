import Formwork.Proofs.Approval.Late
/-!
# Escalation comes to an end

While nobody decides, a chain is looked through again and again, and whatever is found to be overdue
is carried out. Each escalation marks its record for good, and only one that hands its record over
adds another, which names no delegate in its turn. So a record counts for two escalations as long as
it names a delegate, for one if it does not, and for none once it is marked; every escalation that is
carried out makes the count of the chain smaller.
-/
namespace Formwork

open Calendar

/-! ## Looking through a chain -/

/-- One look at a chain: what was found to be overdue, and what of it was carried out. -/
structure Tick where
  before : Chain
  found : List Escalation
  applied : List Escalation
  after : Chain

namespace Chain

/-- Findings are carried out in their order at a time, for as long as approval is awaited. -/
inductive Carries (time : Stamp) :
    Chain → Status → List Escalation → List Escalation → Chain → Status → Prop
  | done {c : Chain} {status : Status} : Carries time c status [] [] c status
  | stopped {c : Chain} {status : Status} {due : List Escalation}
      (ended : status ≠ .pendingApproval) : Carries time c status due [] c status
  | next {c c' : Chain} {status status' : Status} {e : Escalation} {due applied : List Escalation}
      {submission : Submission} {state : SubmissionState} {ids left : Ids} {o : ApprovalOutcome}
      (onState : submission.state = some state) (onChain : state.chain = c)
      (inStatus : state.status = status)
      (returned : (submission.escalate e time).Returns ids o left) (fresh : o.chain.Distinct)
      (rest : Carries time o.chain o.status due applied c' status') :
      Carries time c status (e :: due) (e :: applied) c' status'

/-- Any number of looks at a chain, at any times, with nothing in between. -/
inductive Ticks : Chain → Status → List Tick → Chain → Status → Prop
  | none {c : Chain} {status : Status} : Ticks c status [] c status
  | next {c c' c'' : Chain} {status status' status'' : Status} {settings : Settings} {now : Stamp}
      {due applied : List Escalation} {ticks : List Tick}
      (found : c.escalations settings now = .ok due)
      (carried : Carries now c status due applied c' status')
      (rest : Ticks c' status' ticks c'' status'') :
      Ticks c status (⟨c, due, applied, c'⟩ :: ticks) c'' status''

/-- The chains, with the status of their submissions, to which the moves of one round lead, and those
of submissions in a workflow. -/
inductive Attained : Chain → Status → Prop
  | inRound {config : ApprovalConfig} {context : Context} {round : Int} {ids left : Ids}
      {start c : Chain} {turns : List Turn} {status : Status}
      (started : (config.startChain context round).Returns ids start left)
      (distinct : start.Distinct) (run : Run start turns c status) : Attained c status
  | inWorkflow {w : Workflow} {s : SubmissionState} (reached : w.DulyReached s) :
      Attained s.chain s.status

end Chain

/-! ## Records grow older -/

/-- What carrying out escalations may do to a record: it keeps its delegate and a mark, it is not
asked again, and it is handed over only if it names a delegate. -/
structure ApprovalRecord.Ages (r s : ApprovalRecord) : Prop where
  id : s.id = r.id
  delegate : s.delegate = r.delegate
  marked : r.escalated = true → s.escalated = true
  asked : s.status = .pending → r.status = .pending
  handedOver : s.status = .delegated → r.status = .delegated ∨ r.hasDelegate = true

namespace ApprovalRecord

variable {r s t : ApprovalRecord}

theorem Ages.refl (r : ApprovalRecord) : r.Ages r := ⟨rfl, rfl, fun h => h, fun h => h, .inl⟩

theorem Ages.hasDelegate (h : r.Ages s) : s.hasDelegate = r.hasDelegate := by
  unfold ApprovalRecord.hasDelegate
  rw [h.delegate]

theorem Ages.trans (h : r.Ages s) (h' : s.Ages t) : r.Ages t where
  id := h'.id.trans h.id
  delegate := h'.delegate.trans h.delegate
  marked := h'.marked ∘ h.marked
  asked := h.asked ∘ h'.asked
  handedOver hover := by
    rcases h'.handedOver hover with hover | hdelegate
    · exact h.handedOver hover
    · exact .inr (h.hasDelegate ▸ hdelegate)

theorem ages_marked (r : ApprovalRecord) : r.Ages r.marked :=
  ⟨rfl, rfl, fun _ => rfl, fun h => h, .inl⟩

theorem ages_dropped (r target : ApprovalRecord) : r.Ages (r.dropped target) := by
  unfold dropped
  split
  · exact ⟨rfl, rfl, fun h => h, nofun, nofun⟩
  · exact .refl r

theorem ages_rejected (r : ApprovalRecord) (v : Verdict) : r.Ages (r.marked.decideAs .rejected v) :=
  ⟨rfl, rfl, fun _ => rfl, nofun, nofun⟩

theorem ages_handedTo (h : r.hasDelegate = true) (delegate : String) (v : Verdict) :
    r.Ages (r.marked.handedTo delegate v) :=
  ⟨rfl, rfl, fun _ => rfl, nofun, fun _ => .inr h⟩

end ApprovalRecord

namespace Chain

variable {c c' : Chain} {t : ApprovalRecord} {e : Escalation} {o : ApprovalOutcome}

/-- Every record is found again, grown older; whatever else there is is new, names no delegate and is
not handed over. -/
structure Ages (c c' : Chain) : Prop where
  kept : ∀ r ∈ c, ∃ s ∈ c', r.Ages s
  known : ∀ s ∈ c', (∃ r ∈ c, r.Ages s) ∨
    (∀ r ∈ c, r.id ≠ s.id) ∧ s.hasDelegate = false ∧ s.status ≠ .delegated

theorem Ages.refl (c : Chain) : c.Ages c where
  kept r hr := ⟨r, hr, .refl r⟩
  known s hs := .inl ⟨s, hs, .refl s⟩

theorem Ages.trans {c'' : Chain} (h : c.Ages c') (h' : c'.Ages c'') : c.Ages c'' where
  kept r hr := by
    obtain ⟨s, hs, hrs⟩ := h.kept r hr
    obtain ⟨s', hs', hss⟩ := h'.kept s hs
    exact ⟨s', hs', hrs.trans hss⟩
  known s' hs' := by
    rcases h'.known s' hs' with ⟨s, hs, hss⟩ | ⟨hnew, hlacks⟩
    · rcases h.known s hs with ⟨r, hr, hrs⟩ | ⟨hnew, hdelegate, hover⟩
      · exact .inl ⟨r, hr, hrs.trans hss⟩
      · refine .inr ⟨?_, hss.hasDelegate.trans hdelegate, fun hstatus => ?_⟩
        · rw [hss.id]
          exact hnew
        · rcases hss.handedOver hstatus with hstatus | hsome
          · exact hover hstatus
          · rw [hdelegate] at hsome
            cases hsome
    · refine .inr ⟨fun r hr hid => ?_, hlacks⟩
      obtain ⟨s, hs, hrs⟩ := h.kept r hr
      exact hnew s hs (hrs.id.trans hid)

/-- There is a record of an id, and what is said holds of it. -/
def Has (c : Chain) (id : String) (p : ApprovalRecord → Prop) : Prop :=
  (∃ r ∈ c, r.id = id) ∧ ∀ r ∈ c, r.id = id → p r

theorem Has.of_ages {id : String} {p : ApprovalRecord → Prop} (h : c.Has id p) (ages : c.Ages c')
    (hp : ∀ r s : ApprovalRecord, r.Ages s → p r → p s) : c'.Has id p := by
  obtain ⟨⟨r, hr, hid⟩, hall⟩ := h
  constructor
  · obtain ⟨s, hs, hrs⟩ := ages.kept r hr
    exact ⟨s, hs, hrs.id.trans hid⟩
  · intro s hs hsid
    rcases ages.known s hs with ⟨r', hr', hrs⟩ | ⟨hnew, -⟩
    · exact hp r' s hrs (hall r' hr' (hrs.id.symm.trans hsid))
    · exact absurd (hid.trans hsid.symm) (hnew r hr)

/-! ## What an escalation does -/

/-- An escalation marks its record, rejects it or hands it over, as its policy says. -/
theorem escalate_cases (h : c.Distinct) (ht : t ∈ c) (hid : t.id = e.record) {time : Stamp}
    {ids left : Ids} (returned : (c.escalate .pendingApproval e time).Returns ids o left) :
    o.chain = c.markEscalated t.id ∨
    (∃ v, o = (c.markEscalated t.id).reject t.marked v) ∨
    e.policy = .delegate ∧
      ∃ id delegate v, o = (c.markEscalated t.id).handOver t.marked id delegate v := by
  have hmarked : (c.markEscalated t.id).record? t.id = some t.marked :=
    record?_of_mem (h.mark t.id) (mem_marked h ht)
  unfold escalate at returned
  rw [← hid] at returned
  cases hpolicy : e.policy with
  | notifyOnly =>
    simp only [Escalation.verdict?, hpolicy, Work.pure_returns_iff] at returned
    exact .inl (by rw [← returned.1])
  | autoReject =>
    simp only [Escalation.verdict?, hpolicy] at returned
    obtain ⟨t', hfound, hdecides⟩ := decide_returns returned
    obtain rfl := Option.some.inj (hmarked.symm.trans hfound)
    cases hdecides with
    | approve hv | handOver _ hv => cases hv
    | reject _ => exact .inr (.inl ⟨_, rfl⟩)
  | delegate =>
    simp only [Escalation.verdict?, hpolicy] at returned
    obtain ⟨t', hfound, hdecides⟩ := decide_returns returned
    obtain rfl := Option.some.inj (hmarked.symm.trans hfound)
    cases hdecides with
    | approve hv | reject hv => cases hv
    | handOver id _ given => exact .inr (.inr ⟨rfl, _, _, _, rfl⟩)

/-- The escalation is for a pending record that is not marked, and hands it over only if the record
names a delegate. -/
def IsDue (c : Chain) (e : Escalation) : Prop :=
  ∃ t ∈ c, t.id = e.record ∧ t.status = .pending ∧ t.escalated = false ∧
    (e.policy = .delegate → t.hasDelegate = true)

end Chain

theorem ApprovalRecord.hasDelegate_of_resolvePolicy {r : ApprovalRecord} {settings : Settings}
    (h : r.resolvePolicy settings = .ok .delegate) : r.hasDelegate = true := by
  obtain ⟨policy, -, h⟩ := Work.except_bind_eq_ok_iff.mp h
  cases hdelegate : r.hasDelegate with
  | true => rfl
  | false =>
    simp only [hdelegate, pure, Except.pure, Except.ok.injEq] at h
    split at h
    · cases h
    · rename_i hnot
      exact absurd ⟨h, rfl⟩ hnot

theorem ApprovalRecord.hasDelegate_of_escalation? {r : ApprovalRecord} {settings : Settings}
    {now : Stamp} {e : Escalation} (h : r.escalation? settings now = .ok (some e))
    (hpolicy : e.policy = .delegate) : r.hasDelegate = true := by
  unfold escalation? at h
  split at h
  · cases h
  · split at h
    · obtain ⟨waited, -, h⟩ := Work.except_bind_eq_ok_iff.mp h
      split at h
      · cases h
      · obtain ⟨policy, hresolved, h⟩ := Work.except_bind_eq_ok_iff.mp h
        cases h
        rw [show policy = .delegate from hpolicy] at hresolved
        exact hasDelegate_of_resolvePolicy hresolved
    · cases h

namespace Chain

variable {c c' : Chain} {t : ApprovalRecord} {e : Escalation} {o : ApprovalOutcome}

theorem isDue_of_mem {settings : Settings} {now : Stamp} {due : List Escalation}
    (found : c.escalations settings now = .ok due) (he : e ∈ due) : c.IsDue e := by
  obtain ⟨t, ht, hfound⟩ := exists_of_mem_escalations found he
  obtain ⟨hid, hp, hmark⟩ := ApprovalRecord.escalation?_eq_some hfound
  exact ⟨t, ht, hid, hp, hmark, ApprovalRecord.hasDelegate_of_escalation? hfound⟩

/-! ## The count of what is left -/

end Chain

/-- How many escalations a record is good for: its own, unless it is marked or not asked, and that of
the delegate to whom it may be handed over. -/
def ApprovalRecord.burden (r : ApprovalRecord) : Nat :=
  if r.isPending && !r.escalated then (if r.hasDelegate then 2 else 1) else 0

def Chain.burden (c : Chain) : Nat := (c.map (·.burden)).sum

namespace ApprovalRecord

variable {r : ApprovalRecord}

theorem burden_le (r : ApprovalRecord) : r.burden ≤ 2 * if r.isPending then 1 else 0 := by
  unfold burden
  cases r.isPending <;> cases r.escalated <;> cases r.hasDelegate <;> decide

theorem burden_of_due (hp : r.status = .pending) (hmark : r.escalated = false) :
    r.burden = if r.hasDelegate then 2 else 1 := by
  simp [burden, isPending, hp, hmark]

theorem burden_of_not_pending (h : r.status ≠ .pending) : r.burden = 0 := by
  simp [burden, isPending, h]

@[simp] theorem burden_marked (r : ApprovalRecord) : r.marked.burden = 0 := by
  simp [burden, marked]

@[simp] theorem burden_handedTo (r : ApprovalRecord) (delegate : String) (v : Verdict) :
    (r.handedTo delegate v).burden = 0 :=
  burden_of_not_pending nofun

@[simp] theorem burden_replacement (r : ApprovalRecord) (id delegate : String) (v : Verdict) :
    (r.replacement id delegate v).burden = 1 := rfl

end ApprovalRecord

namespace Chain

variable {c c' : Chain} {t : ApprovalRecord} {e : Escalation} {o : ApprovalOutcome}

@[simp] theorem burden_cons (r : ApprovalRecord) (c : Chain) :
    burden (r :: c) = r.burden + burden c := rfl

theorem burden_le (c : Chain) : c.burden ≤ 2 * c.countP (·.isPending) := by
  induction c with
  | nil => exact Nat.le_refl 0
  | cons r rest ih =>
    rw [burden_cons, List.countP_cons]
    have hr := r.burden_le
    omega

theorem burden_of_closed (h : c.Closed) : c.burden = 0 := by
  induction c with
  | nil => rfl
  | cons r rest ih =>
    have hr : r.burden = 0 := r.burden_of_not_pending (h.not_pending List.mem_cons_self)
    rw [burden_cons, hr, ih fun s hs => h s (List.mem_cons_of_mem r hs)]

theorem le_burden (ht : t ∈ c) : t.burden ≤ c.burden :=
  List.single_le_sum (by simp) _ (List.mem_map_of_mem ht)

theorem burden_markEscalated (ht : t ∈ c) :
    (c.markEscalated t.id).burden + t.burden ≤ c.burden := by
  rw [markEscalated_eq_map]
  have hle (l : Chain) : burden (l.map fun r => if r.id = t.id then r.marked else r) ≤ l.burden := by
    induction l with
    | nil => exact Nat.le_refl 0
    | cons r rest ih =>
      rw [List.map_cons, burden_cons, burden_cons]
      split
      · simp only [ApprovalRecord.burden_marked]
        omega
      · omega
  induction c with
  | nil => cases ht
  | cons r rest ih =>
    rw [List.map_cons, burden_cons, burden_cons]
    rcases List.mem_cons.mp ht with rfl | ht
    · have hrest := hle rest
      simp only [↓reduceIte, ApprovalRecord.burden_marked]
      omega
    · have hrest := ih ht
      split
      · simp only [ApprovalRecord.burden_marked]
        omega
      · omega

theorem burden_handOver (c : Chain) (target : ApprovalRecord) (id delegate : String) (v : Verdict) :
    (c.handOver target id delegate v).chain.burden ≤ c.burden + 1 := by
  change burden (c.replaceFirst _ fun r => [r.handedTo delegate v, r.replacement id delegate v]) ≤ _
  induction c with
  | nil => exact Nat.zero_le _
  | cons r rest ih =>
    unfold replaceFirst
    split
    · simp only [List.cons_append, List.nil_append, burden_cons, ApprovalRecord.burden_handedTo,
        ApprovalRecord.burden_replacement]
      omega
    · simp only [burden_cons]
      omega

/-! ## One escalation -/

theorem ids_handOver (ht : t ∈ c) (id delegate : String) (v : Verdict) :
    ((c.handOver t id delegate v).chain.map (·.id)).Perm (id :: c.map (·.id)) := by
  change (Chain.replaceFirst (fun r => r.id == t.id)
    (fun r => [r.handedTo delegate v, r.replacement id delegate v]) c |>.map (·.id)).Perm _
  induction c with
  | nil => cases ht
  | cons r rest ih =>
    unfold replaceFirst
    split
    · exact .swap _ _ _
    · rename_i hne
      have htrest : t ∈ rest := by
        rcases List.mem_cons.mp ht with rfl | ht
        · simp at hne
        · exact ht
      exact ((ih htrest).cons r.id).trans (.swap _ _ _)

theorem new_of_handOver (ht : t ∈ c) {id delegate : String} {v : Verdict}
    (fresh : (c.handOver t id delegate v).chain.Distinct) : ∀ r ∈ c, r.id ≠ id := by
  have hnodup := ((ids_handOver ht id delegate v).nodup_iff.mp fresh)
  intro r hr hid
  exact (List.nodup_cons.mp hnodup).1 (List.mem_map.mpr ⟨r, hr, hid⟩)

section Outcomes

variable (h : c.Distinct) (ht : t ∈ c)

include h ht

theorem ages_markEscalated : c.Ages (c.markEscalated t.id) where
  kept r hr := by
    by_cases hrt : r = t
    · exact ⟨t.marked, mem_marked h ht, hrt ▸ r.ages_marked⟩
    · exact ⟨r, ((mem_markEscalated_ne h ht).mpr ⟨hr, hrt⟩).1, .refl r⟩
  known s hs := by
    by_cases hst : s = t.marked
    · exact .inl ⟨t, ht, hst ▸ t.ages_marked⟩
    · exact .inl ⟨s, ((mem_markEscalated_ne h ht).mp ⟨hs, hst⟩).1, .refl s⟩

theorem ages_reject (v : Verdict) :
    c.Ages ((c.markEscalated t.id).reject t.marked v).chain where
  kept r hr := by
    by_cases hrt : r = t
    · exact ⟨_, (mem_reject_marked h ht v).mpr (.inr rfl), hrt ▸ r.ages_rejected v⟩
    · exact ⟨_, (mem_reject_marked h ht v).mpr (.inl ⟨r, hr, hrt, rfl⟩), r.ages_dropped t⟩
  known s hs := by
    rcases (mem_reject_marked h ht v).mp hs with ⟨r, hr, -, rfl⟩ | rfl
    · exact .inl ⟨r, hr, r.ages_dropped t⟩
    · exact .inl ⟨t, ht, t.ages_rejected v⟩

theorem ages_handOver (hdelegate : t.hasDelegate = true) {id delegate : String} {v : Verdict}
    (fresh : ((c.markEscalated t.id).handOver t.marked id delegate v).chain.Distinct) :
    c.Ages ((c.markEscalated t.id).handOver t.marked id delegate v).chain where
  kept r hr := by
    by_cases hrt : r = t
    · exact ⟨_, (mem_handOver_marked h ht).mpr (.inr (.inl rfl)),
        hrt ▸ ApprovalRecord.ages_handedTo (hrt ▸ hdelegate) delegate v⟩
    · exact ⟨r, (mem_handOver_marked h ht).mpr (.inl ⟨hr, hrt⟩), .refl r⟩
  known s hs := by
    rcases (mem_handOver_marked h ht).mp hs with ⟨hsc, -⟩ | rfl | rfl
    · exact .inl ⟨s, hsc, .refl s⟩
    · exact .inl ⟨t, ht, ApprovalRecord.ages_handedTo hdelegate delegate v⟩
    · refine .inr ⟨fun r hr hid => ?_, rfl, nofun⟩
      obtain ⟨s, hs, hrs⟩ := (ages_markEscalated h ht).kept r hr
      exact new_of_handOver (mem_marked h ht) fresh s hs (hrs.id.trans hid)

end Outcomes

/-- The chain is closed, or it is awaited in one of its rounds and so is the submission. -/
structure Steady (c : Chain) (status : Status) : Prop where
  distinct : c.Distinct
  stands : c.Closed ∨ status = .pendingApproval ∧ ∃ round, c.AwaitsIn round

theorem Steady.closed {status : Status} (h : c.Steady status) (ended : status ≠ .pendingApproval) :
    c.Closed :=
  h.stands.resolve_right fun awaits => ended awaits.1

theorem Closed.not_isDue (h : c.Closed) : ¬ c.IsDue e := by
  rintro ⟨t, ht, -, hp, -⟩
  exact h.not_pending ht hp

/-- What carrying out an escalation does: its record is marked for good, the others wait as they did
unless the chain is rejected, and there is less left to carry out. -/
structure Sheds (c : Chain) (e : Escalation) (o : ApprovalOutcome) : Prop where
  steady : o.chain.Steady o.status
  ages : c.Ages o.chain
  marked : o.chain.Has e.record (·.escalated = true)
  others : o.status = .pendingApproval → ∀ r ∈ c, r.id ≠ e.record → r ∈ o.chain
  burden : o.chain.burden < c.burden

theorem Has.of_mem (h : c.Distinct) {p : ApprovalRecord → Prop} (ht : t ∈ c) (hp : p t) :
    c.Has t.id p :=
  ⟨⟨t, ht, rfl⟩, fun _ hr hid => h.eq_of_id hr ht hid ▸ hp⟩

theorem Steady.sheds (steady : c.Steady .pendingApproval) (due : c.IsDue e) {time : Stamp}
    {ids left : Ids} (returned : (c.escalate .pendingApproval e time).Returns ids o left)
    (fresh : o.chain.Distinct) : c.Sheds e o := by
  obtain ⟨t, ht, hid, hp, hmark, hdelegate⟩ := due
  have h := steady.distinct
  have hdoes : c.Does t (.escalation e) o := escalate_returns h ht hid returned
  have hsteady : o.chain.Steady o.status := by
    rcases steady.stands with hclosed | ⟨-, round, hawaits⟩
    · exact absurd ⟨t, ht, hid, hp, hmark, hdelegate⟩ hclosed.not_isDue
    · refine ⟨fresh, ?_⟩
      cases hdoes.comesTo hawaits h ht hp fresh with
      | goesOn status awaits => exact .inr ⟨status, round, awaits⟩
      | completed _ _ closed | rejected _ _ closed => exact .inl closed
  have hburden := t.burden_of_due hp hmark
  have hcount := burden_markEscalated ht
  have hothers : o.status = .pendingApproval → ∀ r ∈ c, r.id ≠ e.record → r ∈ o.chain := by
    intro goesOn r hr hne
    exact hdoes.keeps_others goesOn h ht hr fun hrt => hne (hrt ▸ hid)
  rcases escalate_cases h ht hid returned with hchain | ⟨v, rfl⟩ | ⟨hpolicy, id, delegate, v, rfl⟩
  case inl =>
    refine ⟨hsteady, ?_, ?_, hothers, ?_⟩
    · rw [hchain]
      exact ages_markEscalated h ht
    · rw [hchain] at fresh ⊢
      exact hid ▸ .of_mem (t := t.marked) fresh (mem_marked h ht) rfl
    · rw [hchain]
      split at hburden <;> omega
  case inr.inl =>
    refine ⟨hsteady, ages_reject h ht v, ?_, hothers, ?_⟩
    · exact hid ▸ .of_mem (t := t.marked.decideAs .rejected v) fresh
        ((mem_reject_marked h ht v).mpr (.inr rfl)) rfl
    · rw [burden_of_closed (hsteady.closed nofun)]
      have hle := le_burden ht
      split at hburden <;> omega
  case inr.inr =>
    refine ⟨hsteady, ages_handOver h ht (hdelegate hpolicy) fresh, ?_, hothers, ?_⟩
    · exact hid ▸ .of_mem (t := t.marked.handedTo delegate v) fresh
        ((mem_handOver_marked h ht).mpr (.inr (.inl rfl))) rfl
    · have hmore := burden_handOver (c.markEscalated t.id) t.marked id delegate v
      rw [hdelegate hpolicy, if_pos rfl] at hburden
      omega

/-! ## One look -/

section Ticks

variable {time : Stamp} {status status' : Status} {due applied : List Escalation} {ticks : List Tick}
  {id : String}

/-- What is found for a record that is settled: nothing. -/
def Settled (r : ApprovalRecord) : Prop := r.escalated = true ∨ r.status ≠ .pending

theorem Settled.of_ages {r s : ApprovalRecord} (ages : r.Ages s) (h : Settled r) : Settled s :=
  h.imp ages.marked fun hp hs => hp (ages.asked hs)

/-- Nobody can be asked in the place of whom the record asks. -/
def Final (r : ApprovalRecord) : Prop := r.hasDelegate = false ∧ r.status ≠ .delegated

theorem Final.of_ages {r s : ApprovalRecord} (ages : r.Ages s) (h : Final r) : Final s := by
  refine ⟨ages.hasDelegate.trans h.1, fun hover => ?_⟩
  rcases ages.handedOver hover with hover | hdelegate
  · exact h.2 hover
  · rw [h.1] at hdelegate
    cases hdelegate

/-- What carrying out findings comes to. -/
structure Spends (c c' : Chain) (status' : Status) (due applied : List Escalation) : Prop where
  steady : c'.Steady status'
  ages : c.Ages c'
  settled : ∀ e ∈ due, c'.Has e.record Settled
  burden : applied.length + c'.burden ≤ c.burden

theorem Carries.spends (carried : Carries time c status due applied c' status')
    (steady : c.Steady status) (known : ∀ e ∈ due, ∃ r ∈ c, r.id = e.record)
    (isDue : status = .pendingApproval → ∀ e ∈ due, c.IsDue e)
    (apart : (due.map (·.record)).Nodup) : c.Spends c' status' due applied := by
  induction carried with
  | done => exact ⟨steady, .refl _, nofun, by simp⟩
  | @stopped c status due ended =>
    have hclosed := steady.closed ended
    exact ⟨steady, .refl _, fun e he => ⟨known e he, fun r hr _ => .inr (hclosed.not_pending hr)⟩,
      by simp⟩
  | @next c c' status status' e due applied submission state ids left o onState onChain inStatus
      returned fresh rest ih =>
    subst onChain inStatus
    obtain ⟨hnew, hapart⟩ := List.nodup_cons.mp apart
    obtain ⟨hpending, hescalated⟩ : state.status = .pendingApproval ∧
        (state.chain.escalate .pendingApproval e time).Returns ids o left := by
      unfold Submission.escalate at returned
      simp only [onState] at returned
      split at returned
      · rename_i hpending
        exact ⟨hpending, hpending ▸ returned⟩
      · simp at returned
    rw [hpending] at steady
    have hdue := isDue hpending
    have hsheds := steady.sheds (hdue e List.mem_cons_self) hescalated fresh
    have hrest : o.chain.Spends c' status' due applied := by
      refine ih hsheds.steady ?_ ?_ hapart
      · intro e' he'
        obtain ⟨r, hr, hid⟩ := known e' (List.mem_cons_of_mem e he')
        obtain ⟨s, hs, hrs⟩ := hsheds.ages.kept r hr
        exact ⟨s, hs, hrs.id.trans hid⟩
      · intro goesOn e' he'
        obtain ⟨t, ht, hid, hrest⟩ := hdue e' (List.mem_cons_of_mem e he')
        refine ⟨t, hsheds.others goesOn t ht fun hsame => hnew ?_, hid, hrest⟩
        exact List.mem_map.mpr ⟨e', he', hid.symm.trans hsame⟩
    refine ⟨hrest.steady, hsheds.ages.trans hrest.ages, ?_, ?_⟩
    · rw [List.forall_mem_cons]
      refine ⟨?_, hrest.settled⟩
      have hmarked : o.chain.Has e.record Settled :=
        ⟨hsheds.marked.1, fun r hr hid => .inl (hsheds.marked.2 r hr hid)⟩
      exact hmarked.of_ages hrest.ages fun _ _ => Settled.of_ages
    · have hless := hsheds.burden
      have hle := hrest.burden
      rw [List.length_cons]
      omega

theorem Carries.spends_found {settings : Settings}
    (found : c.escalations settings time = .ok due)
    (carried : Carries time c status due applied c' status') (steady : c.Steady status) :
    c.Spends c' status' due applied := by
  refine carried.spends steady ?_ (fun _ e he => isDue_of_mem found he)
    ((escalations_sublist found).nodup steady.distinct)
  intro e he
  obtain ⟨t, ht, hid, -⟩ := isDue_of_mem found he
  exact ⟨t, ht, hid⟩

/-! ## Any number of looks -/

theorem Ticks.length_applied_le (ticked : Ticks c status ticks c' status')
    (steady : c.Steady status) : (ticks.flatMap (·.applied)).length ≤ c.burden := by
  induction ticked with
  | none => exact Nat.zero_le _
  | next found carried _ ih =>
    have hspends := carried.spends_found found steady
    have hless := hspends.burden
    have hle := ih hspends.steady
    rw [List.flatMap_cons, List.length_append]
    dsimp only
    omega

theorem Ticks.not_found (ticked : Ticks c status ticks c' status') (steady : c.Steady status)
    (settled : c.Has id Settled) : ∀ tick ∈ ticks, ∀ e ∈ tick.found, e.record ≠ id := by
  induction ticked with
  | none => exact nofun
  | next found carried _ ih =>
    have hspends := carried.spends_found found steady
    rw [List.forall_mem_cons]
    constructor
    · intro e he hid
      obtain ⟨t, ht, htid, hp, hmark, -⟩ := isDue_of_mem found he
      rcases settled.2 t ht (htid.trans hid) with hmarked | hnot
      · rw [hmark] at hmarked
        cases hmarked
      · exact hnot hp
    · exact ih hspends.steady (settled.of_ages hspends.ages fun _ _ => Settled.of_ages)

theorem Ticks.not_handedOver (ticked : Ticks c status ticks c' status') (steady : c.Steady status)
    (final : c.Has id Final) : ∀ tick ∈ ticks,
      (∀ e ∈ tick.found, e.record = id → e.policy ≠ .delegate) ∧
      ∀ s ∈ tick.after, s.id = id → s.status ≠ .delegated := by
  induction ticked with
  | none => exact nofun
  | next found carried _ ih =>
    have hspends := carried.spends_found found steady
    have hfinal := final.of_ages hspends.ages fun _ _ => Final.of_ages
    rw [List.forall_mem_cons]
    refine ⟨⟨?_, fun s hs hid => (hfinal.2 s hs hid).2⟩, ih hspends.steady hfinal⟩
    intro e he hid hpolicy
    obtain ⟨t, ht, htid, -, -, hdelegate⟩ := isDue_of_mem found he
    have hlacks := (final.2 t ht (htid.trans hid)).1
    rw [hdelegate hpolicy] at hlacks
    cases hlacks

theorem Ticks.found_once (ticked : Ticks c status ticks c' status') (steady : c.Steady status) :
    ticks.Pairwise fun a b => ∀ e ∈ a.found, ∀ e' ∈ b.found, e'.record ≠ e.record := by
  induction ticked with
  | none => exact .nil
  | next found carried rest ih =>
    have hspends := carried.spends_found found steady
    refine .cons (fun tick htick e he => ?_) (ih hspends.steady)
    exact rest.not_found hspends.steady (hspends.settled e he) tick htick

theorem Ticks.new_not_handedOver (ticked : Ticks c status ticks c' status')
    (steady : c.Steady status) : ticks.Pairwise fun a b =>
      ∀ r ∈ a.after, (∀ s ∈ a.before, s.id ≠ r.id) →
        (∀ e ∈ b.found, e.record = r.id → e.policy ≠ .delegate) ∧
        ∀ s ∈ b.after, s.id = r.id → s.status ≠ .delegated := by
  induction ticked with
  | none => exact .nil
  | next found carried rest ih =>
    have hspends := carried.spends_found found steady
    refine .cons (fun tick htick r hr hnew => ?_) (ih hspends.steady)
    rcases hspends.ages.known r hr with ⟨s, hs, hsr⟩ | ⟨-, hfinal⟩
    · exact absurd hsr.id.symm (hnew s hs)
    · exact rest.not_handedOver hspends.steady (.of_mem hspends.steady.distinct hr hfinal) tick htick

end Ticks

theorem Run.eq_nil {turns : List Turn} {status : Status} (run : Run [] turns c status) : c = [] := by
  induction run with
  | begun => rfl
  | moved _ takes _ ih =>
    subst ih
    obtain ⟨-, t, ht, -⟩ := takes.cases List.nodup_nil
    cases ht

theorem Attained.steady {status : Status} (attained : c.Attained status) : c.Steady status := by
  cases attained with
  | @inRound config context round _ _ start _ turns _ started distinct run =>
    by_cases hempty : start = []
    · subst hempty
      rw [run.eq_nil]
      exact ⟨List.nodup_nil, .inl fun _ hr => absurd hr List.not_mem_nil⟩
    · obtain ⟨⟨first, hfirst⟩, -⟩ := config.startChain_stands started hempty distinct
      obtain ⟨level, hphase, -⟩ := run.phase hfirst
      refine ⟨hphase.sound.distinct, ?_⟩
      by_cases hpending : status = .pendingApproval
      · rw [hpending] at hphase
        exact .inr ⟨hpending, round, hphase.stands.awaitsIn⟩
      · exact .inl (hphase.closed hpending).2
  | @inWorkflow w s reached =>
    refine ⟨reached.distinct, ?_⟩
    rcases reached.consistent.chain with hclosed | ⟨hawaits, hpending, -⟩
    · exact .inl hclosed
    · exact .inr ⟨hpending, _, hawaits⟩

/-- While nobody decides, no record is found to be overdue in two looks; whoever is asked in the place
of another is the last one to be asked there; and at most two escalations are carried out for each
record that was pending. -/
theorem Attained.escalation_ends {c c' : Chain} {status status' : Status} {ticks : List Tick}
    (attained : c.Attained status) (ticked : Ticks c status ticks c' status') :
    (ticks.Pairwise fun a b => ∀ e ∈ a.found, ∀ e' ∈ b.found, e'.record ≠ e.record) ∧
    (ticks.Pairwise fun a b => ∀ r ∈ a.after, (∀ s ∈ a.before, s.id ≠ r.id) →
      (∀ e ∈ b.found, e.record = r.id → e.policy ≠ .delegate) ∧
      ∀ s ∈ b.after, s.id = r.id → s.status ≠ .delegated) ∧
    (ticks.flatMap (·.applied)).length ≤ 2 * c.countP (·.isPending) := by
  have steady := attained.steady
  exact ⟨ticked.found_once steady, ticked.new_not_handedOver steady,
    (ticked.length_applied_le steady).trans c.burden_le⟩

end Chain

/-! Ann is asked at midnight, and Dan in her place two hours later; another two hours later his record
is marked, and that is all. -/

deriving instance DecidableEq for Escalation

namespace Relay

open Purchase (midnight)

def config : ApprovalConfig :=
  { levels := [{ approvers := ["ann"], escalateAfter := some 1.0, delegate := some "dan" }] }

def ann : ApprovalRecord :=
  { id := "APR-000000000001", level := 0, kind := .sequential, approver := some "ann",
    requestedAt := some (.ofInstant midnight), escalateAfter := some 1.0, delegate := some "dan" }

def second : Stamp := .ofInstant ⟨7200000000, by decide⟩

def fourth : Stamp := .ofInstant ⟨14400000000, by decide⟩

/-- What is found two hours after a record was asked. -/
def late (id approver : String) (policy : EscalationPolicy) (delegate : Option String) :
    Escalation :=
  ⟨id, 0, some approver, none, policy, delegate, 2.0⟩

def toDan : Escalation := late "APR-000000000001" "ann" .delegate (some "dan")

def ofDan : Escalation := late "APR-000000000002" "dan" .notifyOnly none

def handedOver : ApprovalOutcome :=
  (Chain.markEscalated [ann] ann.id).handOver ann.marked ofDan.record "dan"
    ⟨.delegate, Escalation.system, some toDan.comment, some "dan", second⟩

def noticed : ApprovalOutcome :=
  { chain := handedOver.chain.markEscalated ofDan.record, status := .pendingApproval,
    next := (handedOver.chain.markEscalated ofDan.record).nextApprovers }

def submission (c : Chain) : Submission :=
  { id := "S1", submitter := ⟨"sam", none, [], []⟩,
    state := some { step := "review", status := .pendingApproval, chain := c } }

def ticks : List Tick :=
  [⟨[ann], [toDan], [toDan], handedOver.chain⟩,
    ⟨handedOver.chain, [ofDan], [ofDan], noticed.chain⟩]

theorem start_returns :
    (config.startChain (.ofNow midnight) 1).Returns {} [ann] ⟨1, 0, 0, some .approval⟩ := rfl

theorem found_of_toOption {c : Chain} {now : Stamp} {due : List Escalation}
    (h : (c.escalations {} now).toOption = some due) : c.escalations {} now = .ok due := by
  cases hfound : c.escalations {} now with
  | error f => simp [hfound, Except.toOption] at h
  | ok _ => simpa [hfound, Except.toOption] using h

theorem found_second : Chain.escalations [ann] {} second = .ok [toDan] :=
  found_of_toOption (by decide +kernel)

theorem found_fourth : handedOver.chain.escalations {} fourth = .ok [ofDan] :=
  found_of_toOption (by decide +kernel)

theorem escalate_ann : ((submission [ann]).escalate toDan second).Returns
    ⟨1, 0, 0, some .approval⟩ handedOver ⟨2, 0, 0, some .approval⟩ := rfl

theorem escalate_dan :
    ((submission handedOver.chain).escalate ofDan fourth).Returns {} noticed {} := rfl

theorem distinct_handedOver : handedOver.chain.Distinct := by
  unfold Chain.Distinct
  decide

theorem ticked :
    Chain.Ticks [ann] .pendingApproval ticks noticed.chain .pendingApproval := by
  have hmarked : noticed.chain.Distinct := distinct_handedOver.mark ofDan.record
  exact .next found_second (.next rfl rfl rfl escalate_ann distinct_handedOver .done)
    (.next found_fourth (.next rfl rfl rfl escalate_dan hmarked .done) .none)

end Relay

namespace Chain

open Relay

/-- With Ann and Dan the bound is reached. -/
theorem Attained.escalation_ends_relay : Attained [ann] .pendingApproval ∧
    Ticks [ann] .pendingApproval ticks noticed.chain .pendingApproval ∧
    toDan.record ≠ ofDan.record ∧ ofDan.policy ≠ .delegate ∧
    (ticks.flatMap (·.applied)).length = 2 * List.countP (·.isPending) [ann] := by
  have attained : Attained [ann] .pendingApproval :=
    .inRound start_returns (List.nodup_singleton _) .begun
  obtain ⟨honce, hlast, hbound⟩ := attained.escalation_ends ticked
  obtain ⟨dan, hdan, hid⟩ : ∃ r ∈ handedOver.chain, r.id = ofDan.record :=
    ⟨_, List.mem_cons_of_mem _ List.mem_cons_self, rfl⟩
  have hnew : ∀ s ∈ [ann], s.id ≠ dan.id := by
    rw [hid]
    decide
  have hsecond := List.mem_singleton_self (⟨handedOver.chain, [ofDan], [ofDan], noticed.chain⟩ : Tick)
  have hfound := (List.pairwise_cons.mp honce).1 _ hsecond
  have hfinal := (List.pairwise_cons.mp hlast).1 _ hsecond dan hdan hnew
  refine ⟨attained, ticked, ?_, ?_, Nat.le_antisymm hbound (by decide)⟩
  · exact (hfound toDan (List.mem_singleton_self _) ofDan (List.mem_singleton_self _)).symm
  · exact hfinal.1 ofDan (List.mem_singleton_self _) hid.symm

end Chain
end Formwork
