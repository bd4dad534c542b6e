import Formwork.Proofs.Approval.Keep
/-!
# One move

Whatever moves a chain that awaits decisions, one record that is asked is decided, or it is only
marked. The chain then stands at the same level or at a later one, or it has ended.
-/
namespace Formwork

open Calendar

namespace Chain

variable {config : ApprovalConfig} {round level : Int} {c : Chain} {t : ApprovalRecord}
  {v : Verdict} {o : ApprovalOutcome}

/-- How far a chain has come: it awaits decisions at a level, or the last one was made there. -/
inductive Phase (config : ApprovalConfig) (round : Int) (c : Chain) (level : Int) : Status → Prop
  | awaiting (stands : c.StandsAt config round level) :
      Phase config round c level .pendingApproval
  | completed (sound : c.Sound config round) (cleared : ∀ l, c.LevelCleared l) :
      Phase config round c level .completed
  | rejected (ended : c.RejectedAt config round level) : Phase config round c level .rejected

theorem Phase.stands (h : Phase config round c level .pendingApproval) :
    c.StandsAt config round level := by
  cases h with
  | awaiting stands => exact stands

theorem Phase.sound {config : ApprovalConfig} {level : Int} {status : Status}
    (h : Phase config round c level status) : c.Sound config round := by
  cases h with
  | awaiting stands => exact stands.sound
  | completed sound _ => exact sound
  | rejected ended => exact ended.sound

/-! ## Decisions -/

theorem StandsBefore.cleared (h : c.StandsBefore config round (level + 1))
    (hlast : ∀ r ∈ c, r.level ≤ level) (l : Int) : c.LevelCleared l := by
  by_cases hl : l < level + 1
  · exact h.below l hl
  · apply LevelCleared.of_empty
    intro r hr he
    have hle := hlast r hr
    omega

theorem StandsAt.approve (h : c.StandsAt config round level) (ht : t ∈ c)
    (hp : t.status = .pending) (v : Verdict) :
    ∃ next, level ≤ next ∧
      Phase config round (c.approve t v).chain next (c.approve t v).status := by
  obtain ⟨c', cleared, he⟩ :
      ∃ c' cleared, (c.write t.id .approved v).advance t v.time = (c', cleared) := ⟨_, _, rfl⟩
  have hadvanced := h.advance ht v hp v.time he
  have hround : t.round = round := h.sound.inRound t ht
  obtain rfl : t.level = level := h.level_of_pending ht hp
  cases cleared with
  | false =>
    simp only [Chain.approve, he]
    exact ⟨t.level, Int.le_refl _, .awaiting hadvanced⟩
  | true =>
    have hbefore : c'.StandsBefore config round (t.level + 1) := hadvanced
    have hnext := hbefore.openNext? hround v.time
    simp only [Chain.approve, he]
    cases hopen : c'.openNext? t v.time with
    | none =>
      rw [hopen] at hnext
      exact ⟨t.level, Int.le_refl _, .completed hbefore.sound (hbefore.cleared hnext)⟩
    | some c'' =>
      rw [hopen] at hnext
      obtain ⟨next, hlt, hstands⟩ := hnext
      exact ⟨next, Int.le_of_lt hlt, .awaiting hstands⟩

theorem Decides.phase (hd : c.Decides t v o) (h : c.StandsAt config round level) (ht : t ∈ c)
    (hp : t.status = .pending) (fresh : o.chain.Distinct) :
    ∃ next, level ≤ next ∧ Phase config round o.chain next o.status := by
  cases hd with
  | approve _ => exact h.approve ht hp v
  | reject _ => exact ⟨level, Int.le_refl _, .rejected (h.reject ht hp v)⟩
  | handOver id _ given => exact ⟨level, Int.le_refl _, .awaiting (h.handOver ht hp fresh)⟩

/-! ## Marks -/

/-- Records that stay for the same decision, in the same status, leave a level open. -/
theorem LevelOpen.map (h : c.LevelOpen level) {f : ApprovalRecord → ApprovalRecord}
    (hseat : ∀ r : ApprovalRecord, r.SameSeat (f r)) (hstatus : ∀ r, (f r).status = r.status) :
    LevelOpen (c.map f) level := by
  have hfrom : ∀ r ∈ c.map f, r.level = level → ∃ s ∈ c, s.level = level ∧ f s = r := by
    intro r hr hl
    obtain ⟨s, hs, he⟩ := List.mem_map.mp hr
    rw [← he, (hseat s).level] at hl
    exact ⟨s, hs, hl, he⟩
  constructor
  case reached =>
    obtain ⟨r, hr, hl, hp⟩ := h.reached
    exact ⟨f r, List.mem_map.mpr ⟨r, hr, rfl⟩, (hseat r).level.trans hl, (hstatus r).trans hp⟩
  case undecided =>
    intro r hr hl
    obtain ⟨s, hs, hsl, rfl⟩ := hfrom r hr hl
    rw [hstatus]
    exact h.undecided s hs hsl
  case inSequence =>
    intro r hr hl hk hp a ha hal
    obtain ⟨s, hs, hsl, rfl⟩ := hfrom r hr hl
    obtain ⟨b, hb, hbl, rfl⟩ := hfrom a ha hal
    rw [(hseat s).kind] at hk
    rw [hstatus] at hp
    obtain ⟨hone, hlater⟩ := h.inSequence s hs hsl hk hp b hb hbl
    rw [hstatus, (hseat s).position, (hseat b).position]
    exact ⟨fun hbp => by rw [hone hbp], hlater⟩
  case together =>
    intro r hr hl hk
    obtain ⟨s, hs, hsl, rfl⟩ := hfrom r hr hl
    rw [(hseat s).kind] at hk
    rw [hstatus]
    exact h.together s hs hsl hk
  case anyOf =>
    intro r hr hl hk
    obtain ⟨s, hs, hsl, rfl⟩ := hfrom r hr hl
    rw [(hseat s).kind] at hk
    rw [hstatus]
    exact h.anyOf s hs hsl hk
  case held =>
    intro r hr hl
    obtain ⟨s, hs, hsl, rfl⟩ := hfrom r hr hl
    obtain ⟨a, ha, hal, hap, had⟩ := h.held s hs hsl
    refine ⟨f a, List.mem_map.mpr ⟨a, ha, rfl⟩, (hseat a).level.trans hal, ?_, ?_⟩
    · rw [(hseat a).position, (hseat s).position, hap]
    · rw [hstatus]
      exact had

theorem StandsAt.mark (h : c.StandsAt config round level) (ht : t ∈ c) (hp : t.status = .pending) :
    (c.markEscalated t.id).StandsAt config round level := by
  have hseat : ∀ r : ApprovalRecord, r.SameSeat (if r.id = t.id then r.marked else r) :=
    fun r => (r.sameSeat_marked).ite _
  have hstatus : ∀ r : ApprovalRecord, (if r.id = t.id then r.marked else r).status = r.status := by
    intro r
    split <;> rfl
  have hover : ∀ r : ApprovalRecord,
      (if r.id = t.id then r.marked else r).delegatedTo = r.delegatedTo := by
    intro r
    split <;> rfl
  rw [markEscalated_eq_map]
  apply h.stay
  case hsound =>
    apply h.sound.map hseat
    · intro r _ hd
      rw [hstatus]
      exact hd
    · intro r hr hd
      rw [hstatus] at hd
      rw [hover]
      exact h.sound.handedOver r hr hd
  case hagree =>
    intro l hl
    apply agreesAt_map_one h.sound.distinct ht t.sameSeat_marked.level
    rw [h.level_of_pending ht hp]
    exact hl
  case hopen => exact h.here.map hseat hstatus

theorem Distinct.mark (h : c.Distinct) (id : String) : (c.markEscalated id).Distinct := by
  rw [markEscalated_eq_map]
  exact h.map fun r => ((r.sameSeat_marked).ite _).id

theorem mem_marked (h : c.Distinct) (ht : t ∈ c) : t.marked ∈ c.markEscalated t.id := by
  rw [markEscalated_eq_map]
  exact (mem_map_one h ht).mpr (.inr rfl)

end Chain

/-! ## What is accepted -/

private theorem eq_some_of_chosen {found : Option ApprovalRecord} {state state' : SubmissionState}
    {f : Failure} {t : ApprovalRecord}
    (h : (match found with
      | some record => pure (state', record)
      | none => throw f : Except Failure (SubmissionState × ApprovalRecord)) = .ok (state, t)) :
    state' = state ∧ found = some t := by
  cases found with
  | none => simp [throw, throwThe, MonadExceptOf.throw] at h
  | some record => simpa [pure, Except.pure] using h

theorem ApprovalRequest.target_eq_ok {request : ApprovalRequest} {state : SubmissionState}
    {t : ApprovalRecord} (h : request.target = .ok (state, t)) :
    request.submission.state = some state ∧ state.status = .pendingApproval ∧
      state.chain.actionableBy? request.approver request.roles = some t := by
  simp only [target, Work.except_bind_eq_ok_iff] at h
  obtain ⟨state', hstate, h⟩ := h
  have hin : request.submission.state = some state' := by
    unfold Submission.requireState at hstate
    split at hstate <;> simp_all
  have hchosen : state'.status = .pendingApproval ∧ state' = state ∧
      state'.chain.actionableBy? request.approver request.roles = some t := by
    split at h
    · simp only [Work.ite_throw_eq_ok_iff, ne_eq, not_not] at h
      exact ⟨h.2.1, eq_some_of_chosen h.2.2⟩
    · simp only [Work.ite_throw_eq_ok_iff, ne_eq, not_not] at h
      exact ⟨h.1, eq_some_of_chosen h.2⟩
  obtain ⟨hpending, rfl, hfound⟩ := hchosen
  exact ⟨hin, hpending, hfound⟩

theorem ApprovalRequest.process_returns {request : ApprovalRequest} {ids left : Ids}
    {o : ApprovalOutcome} (h : request.process.Returns ids o left) :
    ∃ state t, request.target = .ok (state, t) ∧
      (state.chain.decide t.id request.verdict).Returns ids o left := by
  unfold process at h
  rw [Work.bind_returns_iff] at h
  obtain ⟨⟨state, t⟩, between, htarget, h⟩ := h
  rw [Work.lift_returns_iff] at htarget
  exact ⟨state, t, htarget.1, htarget.2 ▸ h⟩

theorem Escalation.verdict?_ne_approve {e : Escalation} {time : Stamp} {v : Verdict}
    (h : e.verdict? time = some v) : v.decision ≠ .approve := by
  unfold verdict? at h
  split at h
  · simp at h
  · simp only [Option.some.injEq] at h
    simp [← h]
  · simp only [Option.some.injEq] at h
    simp [← h]

/-- The approver of a record approved it, in a move on a chain. -/
def Move.Grants (c : Chain) (move : Move) (r : ApprovalRecord) : Prop :=
  ∃ request, move = .decision request ∧ request.decision = .approve ∧
    ∃ t ∈ c, t.status = .pending ∧ t.admits request.approver request.roles = true ∧
      r = t.decideAs .approved request.verdict

namespace Chain

variable {config : ApprovalConfig} {round level : Int} {c : Chain} {t : ApprovalRecord}
  {v : Verdict} {o : ApprovalOutcome} {status : Status} {move : Move}

/-- The ways in which a move is accepted for a pending record. -/
inductive Does (c : Chain) (t : ApprovalRecord) : Move → ApprovalOutcome → Prop
  | decision {request : ApprovalRequest} {o : ApprovalOutcome}
      (admitted : t.admits request.approver request.roles = true)
      (decides : c.Decides t request.verdict o) : Does c t (.decision request) o
  | escalation {e : Escalation} {v : Verdict} {o : ApprovalOutcome} (other : v.decision ≠ .approve)
      (decides : (c.markEscalated t.id).Decides t.marked v o) : Does c t (.escalation e) o
  | notice {e : Escalation} {o : ApprovalOutcome} (inChain : o.chain = c.markEscalated t.id)
      (inStatus : o.status = .pendingApproval) : Does c t (.escalation e) o

/-- An escalation that is due decides the record that it is for, or only marks it. -/
theorem escalate_returns (h : c.Distinct) (ht : t ∈ c) {e : Escalation} (hid : t.id = e.record)
    {time : Stamp} {ids left : Ids}
    (returned : (c.escalate .pendingApproval e time).Returns ids o left) :
    c.Does t (.escalation e) o := by
  unfold escalate at returned
  rw [← hid] at returned
  dsimp only at returned
  split at returned
  · rename_i v hv
    obtain ⟨t', hfound, hdecides⟩ := decide_returns returned
    have hmarked : (c.markEscalated t.id).record? t.marked.id = some t.marked :=
      record?_of_mem (h.mark t.id) (mem_marked h ht)
    have he : t' = t.marked := Option.some.inj (hfound.symm.trans hmarked)
    rw [he] at hdecides
    exact .escalation (Escalation.verdict?_ne_approve hv) hdecides
  · simp only [Work.pure_returns_iff] at returned
    rw [← returned.1]
    exact .notice rfl rfl

/-- A move is accepted while approval is awaited, and is for a record that is asked. -/
theorem Takes.cases (takes : c.Takes status move o) (h : c.Distinct) :
    status = .pendingApproval ∧ ∃ t ∈ c, t.status = .pending ∧ c.Does t move o := by
  cases takes with
  | decision onState onChain inStatus returned =>
    obtain ⟨state, t, htarget, hdecided⟩ := ApprovalRequest.process_returns returned
    obtain ⟨hstate, hpending, hfound⟩ := ApprovalRequest.target_eq_ok htarget
    rw [hstate, Option.some.injEq] at onState
    subst onState onChain inStatus
    obtain ⟨ht, hp, hadmits⟩ := actionableBy?_eq_some hfound
    obtain ⟨t', hrecord, hdecides⟩ := decide_returns hdecided
    rw [record?_of_mem h ht, Option.some.injEq] at hrecord
    subst hrecord
    exact ⟨hpending, t, ht, hp, .decision hadmits hdecides⟩
  | escalation onState onChain inStatus found isDue returned =>
    unfold Submission.escalate at returned
    simp only [onState] at returned
    split at returned
    · rename_i hpending
      subst onChain inStatus
      obtain ⟨t, ht, hid, hp, -⟩ := due_of_mem_escalations found isDue
      rw [hpending] at returned
      exact ⟨hpending, t, ht, hp, escalate_returns h ht hid returned⟩
    · simp at returned

/-- A move leads on to the same level, to a later one, or to the end of the chain. -/
theorem Does.phase (does : c.Does t move o) (h : c.StandsAt config round level) (ht : t ∈ c)
    (hp : t.status = .pending) (fresh : o.chain.Distinct) :
    ∃ next, level ≤ next ∧ Phase config round o.chain next o.status := by
  cases does with
  | decision _ decides => exact decides.phase h ht hp fresh
  | escalation _ decides =>
    exact decides.phase (h.mark ht hp) (mem_marked h.sound.distinct ht) hp fresh
  | notice inChain inStatus =>
    rw [inChain, inStatus]
    exact ⟨level, Int.le_refl _, .awaiting (h.mark ht hp)⟩

theorem Takes.phase (takes : c.Takes status move o) (h : Phase config round c level status)
    (hdistinct : c.Distinct) (fresh : o.chain.Distinct) :
    status = .pendingApproval ∧
      ∃ next, level ≤ next ∧ Phase config round o.chain next o.status := by
  obtain ⟨rfl, t, ht, hp, hdoes⟩ := takes.cases hdistinct
  exact ⟨rfl, hdoes.phase h.stands ht hp fresh⟩

theorem Does.keeps (does : c.Does t move o) (h : c.Distinct) (ht : t ∈ c)
    (hp : t.status = .pending) : Keeps (move.Grants c) c o.chain := by
  have hmarked : Keeps (move.Grants c) c (c.markEscalated t.id) := keeps_mark h ht hp
  cases does with
  | decision admitted decides =>
    exact (decides.keeps h ht).mono fun r hr => ⟨_, rfl, hr.1, t, ht, hp, admitted, hr.2⟩
  | escalation other decides =>
    apply hmarked.trans
    exact (decides.keeps (h.mark t.id) (mem_marked h ht)).mono fun r hr => absurd hr.1 other
  | notice inChain _ =>
    rw [inChain]
    exact hmarked

theorem Takes.keeps (takes : c.Takes status move o) (h : c.Distinct) :
    Keeps (move.Grants c) c o.chain := by
  obtain ⟨-, t, ht, hp, hdoes⟩ := takes.cases h
  exact hdoes.keeps h ht hp

end Chain
end Formwork
