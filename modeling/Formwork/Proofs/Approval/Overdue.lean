import Formwork.Proofs.Approval.Trail
import Formwork.Proofs.Approval.Timing
/-!
# Who has waited too long

Escalations are found on a chain as it stands, and then carried out one after another on what the
chain has become. Each of them sees to the records of its id, and to no other one that is due: it
marks them, and hands one of them over to somebody who is asked anew, or ends the whole round. So at
any time in between nothing is due but what is still to be carried out, and in the end nothing is.
-/
namespace Formwork

open Calendar Document

/-! ## Hours that pass -/

theorem Calendar.Instant.hoursTo_self (i : Instant) : i.hoursTo i = 0 := by
  have hspan : i.elapsed i = 0 := by simp [Instant.elapsed]
  have hseconds : Decimal.nearest (decide ((0 : Int) < 0)) 0 (-6) = 0.0 := by
    simp [Decimal.nearest]
  have hshare : (0.0 : Float) / 3600.0 = 0 := by rfl
  unfold Instant.hoursTo
  dsimp only
  rw [hspan, Int.natAbs_zero, hseconds, hshare]

theorem Calendar.Stamp.hoursTo_of_instants {a b : Stamp} {i j : Instant} (ha : a.instant? = some i)
    (hb : b.instant? = some j) : a.hoursTo b = .ok (i.hoursTo j) := by
  unfold Stamp.hoursTo
  rw [ha, hb]

theorem Calendar.Stamp.hoursTo_ofInstant (i j : Instant) :
    (Stamp.ofInstant i).hoursTo (.ofInstant j) = .ok (i.hoursTo j) :=
  hoursTo_of_instants (instant?_ofInstant i) (instant?_ofInstant j)

theorem Calendar.Stamp.hoursTo_self (i : Instant) :
    (Stamp.ofInstant i).hoursTo (.ofInstant i) = .ok 0 := by
  rw [hoursTo_ofInstant, Instant.hoursTo_self]

/-- The policy for records without one of their own has a name. -/
def Settings.NamesPolicy (settings : Settings) : Prop :=
  ∃ p, Named.ofName? EscalationPolicy settings.escalationPolicy = some p

/-- An escalation that hands a record over says to whom. -/
def Escalation.NamesDelegate (e : Escalation) : Prop :=
  e.policy = .delegate → (e.delegate.filter (!·.isEmpty)).isSome = true

/-! ## Records that are not due -/

namespace ApprovalRecord

variable {settings : Settings} {now : Stamp} {r : ApprovalRecord}

/-- The record is not due for escalation. -/
def NotDue (settings : Settings) (now : Stamp) (r : ApprovalRecord) : Prop :=
  r.escalation? settings now = .ok none

theorem notDue_of_not_pending (h : r.status ≠ .pending) : r.NotDue settings now := by
  simp [NotDue, escalation?, isPending, h]

theorem notDue_of_escalated (h : r.escalated = true) : r.NotDue settings now := by
  simp [NotDue, escalation?, h]

theorem notDue_of_asked_now (here : now.hoursTo now = .ok 0)
    (limit : ∀ limit, r.escalateAfter = some limit → 0 < limit) (asked : r.requestedAt = some now) :
    r.NotDue settings now := by
  unfold NotDue escalation?
  split
  · rfl
  · cases hlimit : r.escalateAfter with
    | none => rfl
    | some hours =>
      have hless : 0 < hours := limit hours hlimit
      simp only [asked, here, Except.mapError, Work.except_ok_bind, hless, ↓reduceIte]
      rfl

theorem resolvePolicy_returns (usual : settings.NamesPolicy) :
    ∃ p, r.resolvePolicy settings = .ok p ∧ (p = .delegate → r.hasDelegate = true) := by
  obtain ⟨default, hdefault⟩ := usual
  have hstated : ∃ p, r.statedPolicy settings = .ok p := by
    unfold statedPolicy
    split
    · exact ⟨_, rfl⟩
    · split
      · exact ⟨.delegate, rfl⟩
      · exact ⟨default, by simp only [hdefault]⟩
  obtain ⟨p, hp⟩ := hstated
  refine ⟨if p = .delegate ∧ !r.hasDelegate then .notifyOnly else p, ?_, ?_⟩
  · rw [resolvePolicy, hp]
    rfl
  · intro hdelegate
    split at hdelegate
    · cases hdelegate
    · rename_i hsomebody
      simpa [hdelegate] using hsomebody

/-- Whether a record is due can be said if the hours can be counted that it has waited. -/
theorem escalation?_returns (usual : settings.NamesPolicy)
    (counted : ∀ since, r.requestedAt = some since → ∃ waited, since.hoursTo now = .ok waited) :
    r.NotDue settings now ∨
      ∃ e, r.escalation? settings now = .ok (some e) ∧ e.record = r.id ∧ e.NamesDelegate := by
  unfold NotDue escalation?
  split
  · exact .inl rfl
  · cases hlimit : r.escalateAfter with
    | none => exact .inl rfl
    | some limit =>
      cases hsince : r.requestedAt with
      | none => exact .inl rfl
      | some since =>
        obtain ⟨waited, hwaited⟩ := counted since hsince
        simp only [hwaited, Except.mapError, Work.except_ok_bind]
        split
        · exact .inl rfl
        · obtain ⟨p, hp, hdelegate⟩ := resolvePolicy_returns usual
          rw [hp]
          refine .inr ⟨_, rfl, rfl, ?_⟩
          intro hpolicy
          have hnamed : r.hasDelegate = true := hdelegate hpolicy
          unfold hasDelegate at hnamed
          cases hto : r.delegate with
          | none => simp [hto] at hnamed
          | some delegate => simpa [hto, Option.filter] using hnamed

theorem Timely.counted (h : r.Timely) (i : Instant) (since : Stamp)
    (hsince : r.requestedAt = some since) :
    ∃ waited, since.hoursTo (.ofInstant i) = .ok waited := by
  obtain ⟨j, rfl⟩ := h.since since hsince
  exact ⟨_, Stamp.hoursTo_ofInstant j i⟩

end ApprovalRecord

/-! ## Findings -/

namespace Chain

variable {settings : Settings} {now : Instant} {round : Int} {c : Chain} {t : ApprovalRecord}
  {v : Verdict}

theorem escalations_eq_nil (h : ∀ r ∈ c, r.NotDue settings (.ofInstant now)) :
    c.escalations settings (.ofInstant now) = .ok [] := by
  induction c with
  | nil => rfl
  | cons r rest ih =>
    obtain ⟨hr, hrest⟩ := List.forall_mem_cons.mp h
    unfold escalations
    rw [hr, ih hrest]
    rfl

/-- The escalations see to all that is due: whoever none of them names is not due. -/
def SeenTo (settings : Settings) (now : Instant) (due : List Escalation) (c : Chain) : Prop :=
  ∀ r ∈ c, r.NotDue settings (.ofInstant now) ∨ ∃ e ∈ due, e.record = r.id

/-- What is due on a timely chain can always be said, and is seen to by what is found. -/
theorem Timely.escalations_returns (h : c.Timely) (now : Instant) (usual : settings.NamesPolicy) :
    ∃ due, c.escalations settings (.ofInstant now) = .ok due ∧
      (∀ e ∈ due, e.NamesDelegate) ∧ c.SeenTo settings now due := by
  induction c with
  | nil => exact ⟨[], rfl, fun _ he => absurd he List.not_mem_nil,
      fun _ hr => absurd hr List.not_mem_nil⟩
  | cons r rest ih =>
    obtain ⟨hr, hrest⟩ := List.forall_mem_cons.mp h
    obtain ⟨later, hlater, hnames, hseen⟩ := ih hrest
    rcases ApprovalRecord.escalation?_returns usual (hr.counted now) with
      hnone | ⟨e, he, hid, hname⟩
    · refine ⟨later, ?_, hnames, ?_⟩
      · unfold escalations
        rw [hnone, hlater]
        rfl
      · intro s hs
        rcases List.mem_cons.mp hs with rfl | hs
        · exact .inl hnone
        · exact hseen s hs
    · refine ⟨e :: later, ?_, List.forall_mem_cons.mpr ⟨hname, hnames⟩, ?_⟩
      · unfold escalations
        rw [he, hlater]
        rfl
      · intro s hs
        rcases List.mem_cons.mp hs with rfl | hs
        · exact .inr ⟨e, List.mem_cons_self, hid⟩
        · rcases hseen s hs with hnot | ⟨e', he', hid'⟩
          · exact .inl hnot
          · exact .inr ⟨e', List.mem_cons_of_mem _ he', hid'⟩

/-! ## What is still to be carried out -/

/-- Escalations that are still to be carried out on a chain: each is for a record of the round that
awaits decisions, and no other record is due. -/
structure Overdue (settings : Settings) (now : Instant) (round : Int) (due : List Escalation)
    (c : Chain) : Prop where
  present : ∀ e ∈ due, ∃ r ∈ c, r.id = e.record
  inRound : ∀ r ∈ c, r.status = .pending ∨ (∃ e ∈ due, e.record = r.id) → r.round = round
  seen : c.SeenTo settings now due
  limit : ∀ r ∈ c, ∀ limit, r.escalateAfter = some limit → 0 < limit

/-- What is found on a chain is to be carried out, where all who are asked are asked in one
round. -/
theorem Timely.overdue (timely : c.Timely) (distinct : c.Distinct)
    (inRound : ∀ r ∈ c, r.status = .pending → r.round = round) {due : List Escalation}
    (found : c.escalations settings (.ofInstant now) = .ok due)
    (seen : c.SeenTo settings now due) : c.Overdue settings now round due where
  present e he := by
    obtain ⟨r, hr, hid, -⟩ := due_of_mem_escalations found he
    exact ⟨r, hr, hid⟩
  inRound r hr hasked := by
    rcases hasked with hp | ⟨e, he, hid⟩
    · exact inRound r hr hp
    · obtain ⟨s, hs, hsid, hp, -⟩ := due_of_mem_escalations found he
      have hsame : s = r := distinct.eq_of_id hs hr (hsid.trans hid)
      subst hsame
      exact inRound s hs hp
  seen := seen
  limit r hr := (timely r hr).limit

/-! ## Carrying one out -/

section Carrying

variable {e : Escalation} {rest : List Escalation}

theorem mem_markEscalated {id : String} {s : ApprovalRecord} (h : s ∈ c.markEscalated id) :
    ∃ r ∈ c, (r.id = id ∧ s = r.marked) ∨ (r.id ≠ id ∧ s = r) := by
  rw [markEscalated_eq_map] at h
  obtain ⟨r, hr, rfl⟩ := List.mem_map.mp h
  by_cases hid : r.id = id
  · exact ⟨r, hr, .inl ⟨hid, if_pos hid⟩⟩
  · exact ⟨r, hr, .inr ⟨hid, if_neg hid⟩⟩

theorem Overdue.round_of_named (h : c.Overdue settings now round (e :: rest)) :
    ∀ s ∈ c.markEscalated e.record, s.id = e.record → s.round = round := by
  intro s hs hid
  obtain ⟨r, hr, ⟨hrid, rfl⟩ | ⟨hne, rfl⟩⟩ := mem_markEscalated hs
  · exact h.inRound r hr (.inr ⟨e, List.mem_cons_self, hrid.symm⟩)
  · exact absurd hid hne

theorem Overdue.mark (h : c.Overdue settings now round (e :: rest)) :
    (c.markEscalated e.record).Overdue settings now round rest where
  present x hx := by
    obtain ⟨r, hr, hid⟩ := h.present x (List.mem_cons_of_mem _ hx)
    obtain ⟨s, hs, hlasts⟩ := (lasts_markEscalated c e.record).found hr
    exact ⟨s, hs, hlasts.id.trans hid⟩
  inRound s hs hasked := by
    obtain ⟨r, hr, ⟨-, rfl⟩ | ⟨-, rfl⟩⟩ := mem_markEscalated hs
    · exact h.inRound r hr (hasked.imp id fun ⟨x, hx, hid⟩ => ⟨x, List.mem_cons_of_mem _ hx, hid⟩)
    · exact h.inRound s hr (hasked.imp id fun ⟨x, hx, hid⟩ => ⟨x, List.mem_cons_of_mem _ hx, hid⟩)
  seen s hs := by
    obtain ⟨r, hr, ⟨-, rfl⟩ | ⟨hne, rfl⟩⟩ := mem_markEscalated hs
    · exact .inl (ApprovalRecord.notDue_of_escalated rfl)
    · refine (h.seen s hr).imp id fun ⟨x, hx, hid⟩ => ⟨x, ?_, hid⟩
      rcases List.mem_cons.mp hx with rfl | hx
      · exact absurd hid.symm hne
      · exact hx
  limit s hs := by
    obtain ⟨r, hr, ⟨-, rfl⟩ | ⟨-, rfl⟩⟩ := mem_markEscalated hs
    · exact h.limit r hr
    · exact h.limit s hr

theorem Overdue.handOver (h : c.Overdue settings now round rest)
    (target : ∀ r ∈ c, r.id = t.id → r.round = round) (here : v.time = .ofInstant now)
    (id delegate : String) :
    (c.handOver t id delegate v).chain.Overdue settings now round rest := by
  have hfrom : ∀ s ∈ (c.handOver t id delegate v).chain, s ∈ c ∨
      ∃ r ∈ c, r.round = round ∧ (s = r.handedTo delegate v ∨ s = r.replacement id delegate v) := by
    intro s hs
    rcases mem_replaceFirst hs with hkept | ⟨r, hr, htest, hnew⟩
    · exact .inl hkept
    · have hid : r.id = t.id := by simpa using htest
      have hplace : s = r.handedTo delegate v ∨ s = r.replacement id delegate v := by
        simpa [ApprovalRecord.handedTo] using hnew
      exact .inr ⟨r, hr, target r hr hid, hplace⟩
  constructor
  case present =>
    intro x hx
    obtain ⟨r, hr, hid⟩ := h.present x hx
    obtain ⟨s, hs, hlasts⟩ := (lasts_handOver c t id delegate v).found hr
    exact ⟨s, hs, hlasts.id.trans hid⟩
  case inRound =>
    intro s hs hasked
    rcases hfrom s hs with hkept | ⟨r, -, hround, rfl | rfl⟩
    · exact h.inRound s hkept hasked
    · exact hround
    · exact hround
  case seen =>
    intro s hs
    rcases hfrom s hs with hkept | ⟨r, hr, -, rfl | rfl⟩
    · exact h.seen s hkept
    · exact .inl (ApprovalRecord.notDue_of_not_pending fun hp => by cases hp)
    · exact .inl (ApprovalRecord.notDue_of_asked_now (Stamp.hoursTo_self now) (h.limit r hr)
        (congrArg some here))
  case limit =>
    intro s hs
    rcases hfrom s hs with hkept | ⟨r, hr, -, rfl | rfl⟩
    · exact h.limit s hkept
    · exact h.limit r hr
    · exact h.limit r hr

theorem Overdue.reject (h : c.Overdue settings now round rest) (hround : t.round = round) :
    ∀ s ∈ (c.reject t v).chain, s.NotDue settings (.ofInstant now) := by
  intro s hs
  apply ApprovalRecord.notDue_of_not_pending
  rw [reject_eq_map] at hs
  obtain ⟨r, hr, rfl⟩ := List.mem_map.mp hs
  unfold ApprovalRecord.dropped
  split
  · exact fun hp => by cases hp
  · rename_i hother
    intro hp
    apply hother
    rcases mem_replaceFirst hr with hkept | ⟨q, -, -, hwritten⟩
    · simp [h.inRound r hkept (.inl hp), hround, hp, ApprovalStatus.isOpen]
    · rw [List.mem_singleton.mp hwritten] at hp
      cases hp

theorem escalate_notifies (hpolicy : e.policy = .notifyOnly) (status : Status) (time : Stamp)
    (ids : Ids) : ∃ o, (c.escalate status e time).Returns ids o ids ∧ o.status = status ∧
      o.chain = c.markEscalated e.record := by
  refine ⟨{ chain := c.markEscalated e.record, status := status,
            next := (c.markEscalated e.record).nextApprovers }, ?_, rfl, rfl⟩
  unfold Chain.escalate
  simp [Escalation.verdict?, hpolicy]

theorem escalate_rejects (hpolicy : e.policy = .autoReject)
    (found : (c.markEscalated e.record).record? e.record = some t) (status : Status) (time : Stamp)
    (ids : Ids) : ∃ v, (c.escalate status e time).Returns ids
      ((c.markEscalated e.record).reject t v) ids := by
  refine ⟨⟨.reject, Escalation.system, some e.comment, none, time⟩, ?_⟩
  unfold Chain.escalate
  simp [Escalation.verdict?, hpolicy, decide, found]

theorem escalate_handsOver (hpolicy : e.policy = .delegate) (names : e.NamesDelegate)
    (found : (c.markEscalated e.record).record? e.record = some t) (status : Status) (time : Stamp)
    (ids : Ids) : ∃ id delegate v left, v.time = time ∧ (c.escalate status e time).Returns ids
      ((c.markEscalated e.record).handOver t id delegate v) left := by
  obtain ⟨delegate, hdelegate⟩ := Option.isSome_iff_exists.mp (names hpolicy)
  have hgiven : delegateOf? t ⟨.delegate, Escalation.system, some e.comment, e.delegate, time⟩ =
      some delegate := by
    simp only [delegateOf?, hdelegate, Option.some_or]
  obtain ⟨id, left, hfresh⟩ :=
    Work.Succeeds.returns (Work.fresh_avoids .approval) ids
  refine ⟨id, delegate, ⟨.delegate, Escalation.system, some e.comment, e.delegate, time⟩, left, rfl,
    ?_⟩
  unfold Chain.escalate
  simp only [Escalation.verdict?, hpolicy, decide, found, hgiven, Work.bind_returns_iff,
    Work.pure_returns_iff]
  exact ⟨id, left, hfresh, rfl, rfl⟩

/-- The first escalation can be carried out. Then the others are still to be carried out, or the
round is rejected and nothing is due any more. -/
theorem Overdue.escalate (h : c.Overdue settings now round (e :: rest)) (names : e.NamesDelegate)
    (ids : Ids) : ∃ o left,
      (c.escalate .pendingApproval e (.ofInstant now)).Returns ids o left ∧
      ((o.status = .pendingApproval ∧ o.chain.Overdue settings now round rest) ∨
        (o.status = .rejected ∧ ∀ r ∈ o.chain, r.NotDue settings (.ofInstant now))) := by
  have hmarked := h.mark
  have hnamed := h.round_of_named
  obtain ⟨t, hrecord⟩ : ∃ t, (c.markEscalated e.record).record? e.record = some t := by
    obtain ⟨r, hr, hid⟩ := h.present e List.mem_cons_self
    obtain ⟨s, hs, hlasts⟩ := (lasts_markEscalated c e.record).found hr
    rw [← Option.isSome_iff_exists, record?, List.find?_isSome]
    exact ⟨s, hs, by simp [hlasts.id, hid]⟩
  have ht : t ∈ c.markEscalated e.record := List.mem_of_find?_eq_some hrecord
  have hid : t.id = e.record := by simpa using List.find?_some hrecord
  cases hpolicy : e.policy with
  | notifyOnly =>
    obtain ⟨o, hreturned, hstatus, hchain⟩ :=
      escalate_notifies hpolicy .pendingApproval (.ofInstant now) ids
    refine ⟨o, ids, hreturned, .inl ⟨hstatus, ?_⟩⟩
    rw [hchain]
    exact hmarked
  | autoReject =>
    obtain ⟨v, hreturned⟩ :=
      escalate_rejects hpolicy hrecord .pendingApproval (.ofInstant now) ids
    exact ⟨_, ids, hreturned, .inr ⟨rfl, hmarked.reject (hnamed t ht hid)⟩⟩
  | delegate =>
    obtain ⟨id, delegate, v, left, htime, hreturned⟩ :=
      escalate_handsOver hpolicy names hrecord .pendingApproval (.ofInstant now) ids
    have htarget : ∀ r ∈ c.markEscalated e.record, r.id = t.id → r.round = round := by
      rw [hid]
      exact hnamed
    exact ⟨_, left, hreturned, .inl ⟨rfl, hmarked.handOver htarget htime id delegate⟩⟩

end Carrying

end Chain
end Formwork
