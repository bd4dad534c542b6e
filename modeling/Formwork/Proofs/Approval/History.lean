import Mathlib
import Formwork.Proofs.Approval.Start
import Formwork.Proofs.Approval.Turn
/-!
# Whole runs of an approval chain

From the start of a round, every run stands at one level, which only ever moves up, until all levels
are cleared or a record is rejected. What is approved at the end was approved by its own approver.
-/
namespace Formwork

open Calendar

theorem ApprovalRecord.admits_iff {r : ApprovalRecord} {actor : String} {roles : List String} :
    r.admits actor roles = true ↔
      r.approver = some actor ∨ r.approver = none ∧ ∃ role, r.role = some role ∧ role ∈ roles := by
  unfold admits
  cases r.approver with
  | some id => simp
  | none => cases r.role with
    | some role => simp
    | none => simp

namespace Chain

variable {config : ApprovalConfig} {context : Context} {round level first : Int}
  {ids left : Ids} {start c : Chain} {turns : List Turn} {status : Status}

/-- The chains of a run, the present one last. -/
def visited (turns : List Turn) (c : Chain) : List Chain := turns.map (·.before) ++ [c]

theorem Run.phase (run : Run start turns c status) (h : start.StandsAt config round first) :
    ∃ level, Phase config round c level status ∧
      ∀ turn ∈ turns, ∃ l ≤ level, turn.before.StandsAt config round l := by
  induction run with
  | begun => exact ⟨first, .awaiting h, by simp⟩
  | @moved turns c status move o run takes fresh ih =>
    obtain ⟨level, hphase, hbefore⟩ := ih
    obtain ⟨rfl, next, hle, hnext⟩ := takes.phase hphase hphase.sound.distinct fresh
    refine ⟨next, hnext, ?_⟩
    intro turn hturn
    rcases List.mem_append.mp hturn with hturn | hturn
    · obtain ⟨l, hl, hstands⟩ := hbefore turn hturn
      exact ⟨l, by omega, hstands⟩
    · rw [List.mem_singleton.mp hturn]
      exact ⟨level, hle, hphase.stands⟩

/-- No run takes a record away, and what it approves was approved in one of its moves. -/
theorem Run.keeps (run : Run start turns c status) (h : start.StandsAt config round first) :
    Keeps (fun r => ∃ turn ∈ turns, turn.move.Grants turn.before r) start c := by
  induction run with
  | begun => exact .refl _ start
  | @moved turns c status move o run takes fresh ih =>
    obtain ⟨level, hphase, -⟩ := run.phase h
    have hearlier : Keeps (fun r => ∃ turn ∈ turns ++ [⟨c, move, o⟩],
        turn.move.Grants turn.before r) start c := by
      apply ih.mono
      rintro r ⟨turn, hturn, hgrants⟩
      exact ⟨turn, List.mem_append_left _ hturn, hgrants⟩
    apply hearlier.trans
    apply (takes.keeps hphase.sound.distinct).mono
    intro r hgrants
    exact ⟨⟨c, move, o⟩, by simp, hgrants⟩

theorem Run.escalation_grants_nothing (run : Run start turns c status)
    (h : start.StandsAt config round first) {turn : Turn} (hturn : turn ∈ turns) {e : Escalation}
    (he : turn.move = .escalation e) {r : ApprovalRecord} (hr : r ∈ turn.outcome.chain)
    (ha : r.status = .approved) : r ∈ turn.before := by
  induction run with
  | begun => simp at hturn
  | @moved turns c status move o run takes fresh ih =>
    rcases List.mem_append.mp hturn with hturn | hturn
    · exact ih hturn
    · obtain ⟨level, hphase, -⟩ := run.phase h
      rw [List.mem_singleton.mp hturn] at he hr ⊢
      rcases (takes.keeps hphase.sound.distinct).approved r hr ha with hr | hgrants
      · exact hr
      · obtain ⟨request, hmove, -⟩ := hgrants
        rw [hmove] at he
        cases he

/-! ## One level is awaited -/

theorem StandsAt.actionable_ne_nil (h : c.StandsAt config round level) : c.actionable ≠ [] := by
  obtain ⟨r, hr, -, hp⟩ := h.here.reached
  apply Chain.actionable_ne_nil _ hp
  rw [mem_latest]
  refine ⟨hr, ?_⟩
  intro s hs
  exact Int.le_of_eq ((h.sound.inRound s hs).trans (h.sound.inRound r hr).symm)

theorem StandsAt.one_level (h : c.StandsAt config round level) :
    ∃ kind, config.kindAt? level = some kind ∧
      (∃ r ∈ c, r.level = level ∧ r.status = .pending) ∧
      (∀ r ∈ c, r.status = .pending → r.level = level) ∧
      c.actionable ≠ [] ∧
      (∀ r ∈ c, r.level < level → r.status ≠ .pending ∧ r.status ≠ .waiting) ∧
      (∀ r ∈ c, level < r.level →
        r.status = .waiting ∧ r.requestedAt = none ∧ r.decidedAt = none) ∧
      (kind = .sequential → ∃ r ∈ c, r.level = level ∧ r.status = .pending ∧
        ∀ s ∈ c, s.level = level →
          (s.status = .pending → s = r) ∧ (s.status = .waiting → r.position < s.position)) ∧
      (kind ≠ .sequential → ∀ r ∈ c, r.level = level → r.status ≠ .waiting) := by
  obtain ⟨t, ht, htl, hp⟩ := h.here.reached
  have hkind : ∀ r ∈ c, r.level = level → r.kind = t.kind :=
    fun r hr hl => h.sound.same_kind hr ht (hl.trans htl.symm)
  refine ⟨t.kind, htl ▸ h.sound.kind t ht, ⟨t, ht, htl, hp⟩, ?_, h.actionable_ne_nil, ?_, ?_, ?_, ?_⟩
  · exact fun r hr hrp => h.level_of_pending hr hrp
  · intro r hr hl
    rcases (h.below r.level hl).settled r hr rfl with hs | hs <;> simp [hs]
  · exact fun r hr hl => h.above r.level hl r hr rfl
  · intro hk
    exact ⟨t, ht, htl, hp, fun s hs hsl => h.here.inSequence t ht htl hk hp s hs hsl⟩
  · intro hk r hr hl
    exact h.here.together r hr hl (by rw [hkind r hr hl]; exact hk)

/-! ## Nobody is passed over -/

/-- Where any approval is enough, all records but the approved one were handed over. -/
theorem LevelCleared.one_approved (h : c.LevelCleared level) {r : ApprovalRecord} (hr : r ∈ c)
    (hl : r.level = level) (hk : r.kind = .anyOf) :
    ∃ a ∈ c, a.level = level ∧ a.status = .approved ∧
      ∀ b ∈ c, b.level = level → b ≠ a → b.status = .delegated := by
  obtain ⟨a, ha, hal, haa, hone⟩ := h.anyOf r hr hl hk
  refine ⟨a, ha, hal, haa, ?_⟩
  intro b hb hbl hne
  rcases h.settled b hb hbl with hs | hs
  · exact absurd (hone b hb hbl hs) hne
  · exact hs

theorem LevelCleared.one_approved_at (h : c.LevelCleared level) (hsound : c.Sound config round)
    {r : ApprovalRecord} (hr : r ∈ c) (hl : r.level = level) (hk : r.kind ≠ .anyOf) :
    ∃ a ∈ c, a.level = level ∧ a.position = r.position ∧ a.status = .approved ∧
      ∀ b ∈ c, b.level = level → b.position = r.position → b ≠ a →
        b.status = .delegated ∧ b.delegatedTo.isSome = true := by
  obtain ⟨a, ha, hal, hap, haa⟩ := h.each r hr hl hk
  refine ⟨a, ha, hal, hap, haa, ?_⟩
  intro b hb hbl hbp hne
  have hd : b.status = .delegated := by
    by_contra hnd
    exact hne (hsound.oneHolder b hb a ha (hbl.trans hal.symm) (hbp.trans hap.symm) hnd
      (by simp [haa]))
  refine ⟨hd, ?_⟩
  rcases hsound.handedOver b hb hd with hany | hto
  · rw [hsound.same_kind hb hr (hbl.trans hl.symm)] at hany
    exact absurd hany hk
  · exact hto

theorem StandsAt.not_pending_above (h : c.StandsAt config round level) {r : ApprovalRecord}
    (hr : r ∈ c) (hl : level < r.level) : r.status ≠ .pending := by
  simp [(h.above r.level hl r hr rfl).1]

end Chain

/-! A purchase that Ann approves, and after her any chief. -/
namespace Purchase

def midnight : Instant := ⟨0, zero_lt_microCount⟩

def config : ApprovalConfig :=
  { levels := [{ approvers := ["ann"] }, { kind := .anyOf, roles := ["chief"] }] }

def ann : ApprovalRecord :=
  { id := "APR-000000000001", level := 0, kind := .sequential, approver := some "ann",
    requestedAt := some (.ofInstant midnight) }

def chief : ApprovalRecord :=
  { id := "APR-000000000002", level := 1, kind := .anyOf, role := some "chief",
    status := .waiting }

/-- Someone approves what can be approved in a chain. -/
def approval (c : Chain) (approver : String) (roles : List String) : ApprovalRequest :=
  { submission :=
      { id := "S1", submitter := ⟨"sam", none, [], []⟩,
        state := some { step := "review", status := .pendingApproval, chain := c } }
    config := config, approver := approver, roles := roles, decision := .approve,
    time := .ofInstant midnight }

def byAnn : ApprovalRequest := approval [ann, chief] "ann" []

def approvedBy (r : ApprovalRecord) (actor : String) : ApprovalRecord :=
  { r with status := .approved, decidedAt := some (.ofInstant midnight), decidedBy := some actor }

def halfway : Chain := [approvedBy ann "ann", chief.request (.ofInstant midnight)]

def byChief : ApprovalRequest := approval halfway "cat" ["chief"]

def completed : Chain :=
  [approvedBy ann "ann", approvedBy (chief.request (.ofInstant midnight)) "cat"]

def turns : List Turn :=
  [⟨[ann, chief], .decision byAnn, ⟨halfway, .pendingApproval, some ann.id, [0], ["role:chief"]⟩⟩,
    ⟨halfway, .decision byChief, ⟨completed, .completed, some chief.id, [1], []⟩⟩]

theorem start_returns :
    (config.startChain (.ofNow midnight) 1).Returns {} [ann, chief] ⟨2, 0, 0, some .approval⟩ := rfl

theorem distinct : Chain.Distinct [ann, chief] := by
  unfold Chain.Distinct
  decide

theorem run_halfway : Chain.Run [ann, chief] (turns.take 1) halfway .pendingApproval := by
  have htakes : Chain.Takes [ann, chief] .pendingApproval (.decision byAnn)
      ⟨halfway, .pendingApproval, some ann.id, [0], ["role:chief"]⟩ := by
    refine .decision rfl rfl rfl (?_ : Work.Returns _ {} _ {})
    unfold Work.Returns
    cbv
  exact Chain.Run.moved .begun htakes distinct

theorem approve_chief : halfway.approve (chief.request (.ofInstant midnight)) byChief.verdict =
    ⟨completed, .completed, some chief.id, [1], []⟩ := by
  have hwrite : halfway.write chief.id .approved byChief.verdict = completed := rfl
  have hadvance : Chain.advance completed (chief.request (.ofInstant midnight))
      byChief.verdict.time = (completed, true) := by cbv
  have hnext : Chain.openNext? completed (chief.request (.ofInstant midnight))
      byChief.verdict.time = none := by cbv
  have hid : (chief.request (.ofInstant midnight)).id = chief.id := rfl
  simp only [Chain.approve, hid, hwrite, hadvance, hnext]
  rfl

theorem run_completed : Chain.Run [ann, chief] turns completed .completed := by
  have htakes : Chain.Takes halfway .pendingApproval (.decision byChief)
      ⟨completed, .completed, some chief.id, [1], []⟩ := by
    have htarget : byChief.target = .ok
        (⟨"review", .pendingApproval, halfway, none, 0, 0, []⟩,
          chief.request (.ofInstant midnight)) := by cbv
    refine .decision rfl rfl rfl (?_ : Work.Returns _ {} _ {})
    unfold ApprovalRequest.process
    rw [htarget, Work.bind_returns_iff]
    refine ⟨_, {}, Work.lift_returns_iff.mpr ⟨rfl, rfl⟩, ?_⟩
    unfold Work.Returns
    rw [← approve_chief]
    rfl
  exact Chain.Run.moved run_halfway htakes distinct

end Purchase

namespace Chain

variable {config : ApprovalConfig} {context : Context} {round : Int} {ids left : Ids}
  {start c : Chain} {turns : List Turn} {status : Status}

/-! ## From the start on -/

/-- While approval is awaited, it is awaited at exactly one level: what lies below is settled, nothing
has happened above, and in a sequence one approver is asked before all who wait. Afterwards nobody is
asked any more. -/
theorem Run.awaits_one_level
    (started : (config.startChain context round).Returns ids start left)
    (nonempty : start ≠ []) (distinct : start.Distinct) (run : Run start turns c status) :
    (status = .pendingApproval → ∃ level kind, config.kindAt? level = some kind ∧
      (∃ r ∈ c, r.level = level ∧ r.status = .pending) ∧
      (∀ r ∈ c, r.status = .pending → r.level = level) ∧
      c.actionable ≠ [] ∧
      (∀ r ∈ c, r.level < level → r.status ≠ .pending ∧ r.status ≠ .waiting) ∧
      (∀ r ∈ c, level < r.level →
        r.status = .waiting ∧ r.requestedAt = none ∧ r.decidedAt = none) ∧
      (kind = .sequential → ∃ r ∈ c, r.level = level ∧ r.status = .pending ∧
        ∀ s ∈ c, s.level = level →
          (s.status = .pending → s = r) ∧ (s.status = .waiting → r.position < s.position)) ∧
      (kind ≠ .sequential → ∀ r ∈ c, r.level = level → r.status ≠ .waiting)) ∧
    (status ≠ .pendingApproval → (status = .completed ∨ status = .rejected) ∧
      ∀ r ∈ c, r.status ≠ .pending ∧ r.status ≠ .waiting) := by
  obtain ⟨⟨first, hfirst⟩, -⟩ := config.startChain_stands started nonempty distinct
  obtain ⟨level, hphase, -⟩ := run.phase hfirst
  cases hphase with
  | awaiting stands => exact ⟨fun _ => ⟨level, stands.one_level⟩, fun hne => absurd rfl hne⟩
  | completed _ cleared =>
    refine ⟨fun he => (by cases he), fun _ => ⟨.inl rfl, ?_⟩⟩
    intro r hr
    rcases (cleared r.level).settled r hr rfl with hs | hs <;> simp [hs]
  | rejected ended =>
    refine ⟨fun he => (by cases he), fun _ => ⟨.inr rfl, ?_⟩⟩
    intro r hr
    have hclosed := ended.closed r hr
    constructor <;> intro hs <;> simp [hs, ApprovalStatus.isOpen] at hclosed

/-- After Ann, the chief's level is the one that is awaited. -/
theorem Run.awaits_one_level_halfway :
    (Purchase.config.startChain (.ofNow Purchase.midnight) 1).Returns {}
      [Purchase.ann, Purchase.chief] ⟨2, 0, 0, some .approval⟩ ∧
    [Purchase.ann, Purchase.chief] ≠ [] ∧ Distinct [Purchase.ann, Purchase.chief] ∧
    Run [Purchase.ann, Purchase.chief] (Purchase.turns.take 1) Purchase.halfway .pendingApproval ∧
    ∃ level kind, Purchase.config.kindAt? level = some kind ∧
      (∀ r ∈ Purchase.halfway, r.status = .pending → r.level = level) ∧
      Purchase.halfway.actionable ≠ [] := by
  have hne : [Purchase.ann, Purchase.chief] ≠ [] := by simp
  obtain ⟨level, kind, hkind, -, hall, hact, -⟩ :=
    (Run.awaits_one_level Purchase.start_returns hne Purchase.distinct Purchase.run_halfway).1 rfl
  exact ⟨Purchase.start_returns, hne, Purchase.distinct, Purchase.run_halfway, level, kind, hkind,
    hall, hact⟩

/-- A chain that is completed has an approval for each place of each level, or one for the level where
any is enough, and all other records there were handed over. Each approval was given by the approver
of the record, by name or by role, and none by an escalation. A chain that is rejected has one
rejected record, and nobody above it was ever asked. -/
theorem Run.passes_nobody_over
    (started : (config.startChain context round).Returns ids start left)
    (nonempty : start ≠ []) (distinct : start.Distinct) (run : Run start turns c status) :
    (status = .completed → ∀ r ∈ start,
      (r.kind = .anyOf → ∃ a ∈ c, a.level = r.level ∧ a.status = .approved ∧
        ∀ b ∈ c, b.level = r.level → b ≠ a → b.status = .delegated) ∧
      (r.kind ≠ .anyOf → ∃ a ∈ c, a.level = r.level ∧ a.position = r.position ∧
        a.status = .approved ∧ ∀ b ∈ c, b.level = r.level → b.position = r.position → b ≠ a →
          b.status = .delegated ∧ b.delegatedTo.isSome = true)) ∧
    (∀ r ∈ c, r.status = .approved → ∃ turn ∈ turns, ∃ request,
      turn.move = .decision request ∧ request.decision = .approve ∧
      (∃ t ∈ turn.before, t.status = .pending ∧ r = t.decideAs .approved request.verdict) ∧
      (r.approver = some request.approver ∨
        r.approver = none ∧ ∃ role, r.role = some role ∧ role ∈ request.roles)) ∧
    (∀ turn ∈ turns, ∀ e, turn.move = .escalation e →
      ∀ r ∈ turn.outcome.chain, r.status = .approved → r ∈ turn.before) ∧
    (status = .rejected → ∃ a ∈ c, a.status = .rejected ∧
      (∀ b ∈ c, b.status = .rejected → b = a) ∧
      ∀ d ∈ visited turns c, ∀ r ∈ d, a.level < r.level → r.status ≠ .pending) := by
  obtain ⟨⟨first, hfirst⟩, hundecided⟩ := config.startChain_stands started nonempty distinct
  obtain ⟨level, hphase, hbefore⟩ := run.phase hfirst
  have hkeeps := run.keeps hfirst
  refine ⟨?_, ?_, ?_, ?_⟩
  · rintro rfl r hr
    obtain ⟨s, hs, hseat⟩ := hkeeps.seats r hr
    cases hphase with
    | completed sound cleared =>
      rw [← hseat.level, ← hseat.position, ← hseat.kind]
      exact ⟨(cleared s.level).one_approved hs rfl, (cleared s.level).one_approved_at sound hs rfl⟩
  · intro r hr ha
    rcases hkeeps.approved r hr ha with hr | ⟨turn, hturn, request, hmove, happrove, hgranted⟩
    · rcases hundecided r hr with hs | hs <;> simp [hs] at ha
    · obtain ⟨t, ht, hp, hadmits, he⟩ := hgranted
      refine ⟨turn, hturn, request, hmove, happrove, ⟨t, ht, hp, he⟩, ?_⟩
      rw [he]
      exact ApprovalRecord.admits_iff.mp hadmits
  · intro turn hturn e he r hr ha
    exact run.escalation_grants_nothing hfirst hturn he hr ha
  · rintro rfl
    cases hphase with
    | rejected ended =>
      obtain ⟨a, ha, hal, har, hone⟩ := ended.one
      refine ⟨a, ha, har, hone, ?_⟩
      intro d hd r hr hl
      rcases List.mem_append.mp hd with hd | hd
      · obtain ⟨turn, hturn, rfl⟩ := List.mem_map.mp hd
        obtain ⟨l, hle, hstands⟩ := hbefore turn hturn
        exact hstands.not_pending_above hr (by omega)
      · rw [List.mem_singleton.mp hd] at hr
        intro hp
        have hclosed := ended.closed r hr
        simp [hp, ApprovalStatus.isOpen] at hclosed

/-- When the purchase is approved, Ann has approved it. -/
theorem Run.passes_nobody_over_completed :
    (Purchase.config.startChain (.ofNow Purchase.midnight) 1).Returns {}
      [Purchase.ann, Purchase.chief] ⟨2, 0, 0, some .approval⟩ ∧
    [Purchase.ann, Purchase.chief] ≠ [] ∧ Distinct [Purchase.ann, Purchase.chief] ∧
    Run [Purchase.ann, Purchase.chief] Purchase.turns Purchase.completed .completed ∧
    ∃ a ∈ Purchase.completed, a.level = 0 ∧ a.position = 0 ∧ a.status = .approved := by
  have hne : [Purchase.ann, Purchase.chief] ≠ [] := by simp
  have hall := (Run.passes_nobody_over Purchase.start_returns hne Purchase.distinct
    Purchase.run_completed).1 rfl Purchase.ann (by simp)
  obtain ⟨a, ha, hl, hp, happroved, -⟩ := hall.2 (by simp [Purchase.ann])
  exact ⟨Purchase.start_returns, hne, Purchase.distinct, Purchase.run_completed, a, ha, hl, hp,
    happroved⟩

end Chain
end Formwork
