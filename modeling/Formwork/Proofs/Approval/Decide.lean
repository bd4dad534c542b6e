import Formwork.Proofs.Approval.Approve
/-!
# What a move does to a chain

A cleared level opens the lowest one behind it; a record that is handed over keeps its level open; a
rejection leaves nothing open. Together with approvals these are all the moves of a chain.
-/
namespace Formwork

open Calendar

namespace ApprovalRecord

/-- A record in the hands of a delegate. -/
def handedTo (r : ApprovalRecord) (delegate : String) (v : Verdict) : ApprovalRecord :=
  { r.decideAs .delegated v with delegatedTo := some delegate }

theorem sameSeat_handedTo (r : ApprovalRecord) (delegate : String) (v : Verdict) :
    r.SameSeat (r.handedTo delegate v) := ⟨rfl, rfl, rfl, rfl, rfl⟩

/-- What becomes of a record when one of its round is rejected. -/
def dropped (r target : ApprovalRecord) : ApprovalRecord :=
  if r.round == target.round && r.status.isOpen then { r with status := .skipped } else r

theorem sameSeat_dropped (r target : ApprovalRecord) : r.SameSeat (r.dropped target) := by
  unfold dropped
  split <;> constructor <;> rfl

theorem dropped_of_open {r target : ApprovalRecord} (hr : r.round = target.round)
    (ho : r.status.isOpen = true) : (r.dropped target).status = .skipped := by
  simp [dropped, hr, ho]

theorem dropped_of_closed {r target : ApprovalRecord} (ho : r.status.isOpen = false) :
    r.dropped target = r := by
  simp [dropped, ho]

end ApprovalRecord

namespace Chain

variable {config : ApprovalConfig} {round level : Int} {c c' : Chain} {t : ApprovalRecord}

/-! ## The next level -/

section OpenNext

variable (h : c.StandsBefore config round (t.level + 1)) (hround : t.round = round)

include h hround

theorem StandsBefore.waitsBehind_iff {r : ApprovalRecord} (hr : r ∈ c) :
    r.waitsBehind t = true ↔ t.level < r.level := by
  simp only [ApprovalRecord.waitsBehind, h.sound.inRound r hr, hround, BEq.rfl, Bool.true_and,
    Bool.and_eq_true, decide_eq_true_eq, ApprovalRecord.isWaiting, and_iff_left_iff_imp]
  exact fun hl => (h.above r.level (by omega) r hr rfl).1

theorem StandsBefore.openFirst_next {next : Int} (hnext : t.level < next)
    (hlowest : ∀ r ∈ c, t.level < r.level → next ≤ r.level) (time : Stamp)
    (hkind : ∀ r ∈ c, r.level = next → r.kind = .sequential) (hsome : ∃ r ∈ c, r.level = next) :
    (c.openFirst (fun r => r.waitsBehind t && r.level == next) time).StandsAt config round next := by
  have hwaits : ∀ r ∈ c, (r.waitsBehind t && r.level == next) = true ↔ r.level = next := by
    intro r hr
    simp only [Bool.and_eq_true, h.waitsBehind_iff hround hr, beq_iff_eq, and_iff_right_iff_imp]
    omega
  have hahead := h.above next (by omega)
  have hwait : ∃ r ∈ c, (r.waitsBehind t && r.level == next) = true := by
    obtain ⟨r, hr, hrl⟩ := hsome
    exact ⟨r, hr, (hwaits r hr).mpr hrl⟩
  obtain ⟨w, hw, hwt, hmin, he⟩ := openFirst_eq_map h.sound.distinct time hwait
  have hwl : w.level = next := (hwaits w hw).mp hwt
  have hws : w.status = .waiting := (hahead w hw hwl).1
  rw [he]
  apply h.reach (h.sound.openRecord time hw hws) (by omega)
  · exact fun s hs hl => hlowest s hs (by omega)
  · intro l hl
    exact agreesAt_map_one h.sound.distinct hw (w.sameSeat_request time).level (hwl ▸ hl)
  · rw [← hwl]
    apply LevelOpen.of_first h.sound time hw hws (hkind w hw hwl)
    · exact fun s hs hl => .inl (hahead s hs (hl.trans hwl)).1
    · exact fun s hs hl _ => hmin s hs ((hwaits s hs).mpr (hl.trans hwl))
    · exact fun s hs hl => ⟨s, hs, hl, rfl, by simp [(hahead s hs (hl.trans hwl)).1]⟩

theorem StandsBefore.openAll_next {next : Int} (hnext : t.level < next)
    (hlowest : ∀ r ∈ c, t.level < r.level → next ≤ r.level) (time : Stamp)
    (hkind : ∀ r ∈ c, r.level = next → r.kind ≠ .sequential) (hsome : ∃ r ∈ c, r.level = next) :
    (c.openAll (fun r => r.waitsBehind t && r.level == next) time).StandsAt config round next := by
  have hwaits : ∀ r ∈ c, (r.waitsBehind t && r.level == next) = true ↔ r.level = next := by
    intro r hr
    simp only [Bool.and_eq_true, h.waitsBehind_iff hround hr, beq_iff_eq, and_iff_right_iff_imp]
    omega
  have hahead := h.above next (by omega)
  have hseat : ∀ r : ApprovalRecord,
      r.SameSeat (if r.waitsBehind t && r.level == next then r.request time else r) :=
    fun r => (r.sameSeat_request time).ite _
  have hclosed : ∀ r ∈ c, r.status = .delegated →
      ¬ (r.waitsBehind t && r.level == next) = true := by
    intro r hr hd hw
    rw [(hahead r hr ((hwaits r hr).mp hw)).1] at hd
    cases hd
  unfold openAll
  apply h.reach _ (by omega)
  · exact fun s hs hl => hlowest s hs (by omega)
  · intro l hl
    apply agreesAt_map (fun r _ => (hseat r).level) _ hl
    intro r hr hrl
    rw [if_neg ((hwaits r hr).not.mpr hrl)]
  · apply LevelOpen.of_all time hsome (fun r => (hseat r).level) _ hkind
    intro r hr hrl
    rw [if_pos ((hwaits r hr).mpr hrl)]
  · apply h.sound.map hseat
    · intro r hr hd
      rw [if_neg (hclosed r hr hd)]
      exact hd
    · intro r hr hd
      split at hd
      · simp [ApprovalRecord.request] at hd
      · rename_i hw
        rw [if_neg hw]
        exact h.sound.handedOver r hr hd

/-- A cleared level opens the lowest one behind it; without one, the chain is at its end. -/
theorem StandsBefore.openNext? (time : Stamp) :
    match c.openNext? t time with
    | none => ∀ r ∈ c, r.level ≤ t.level
    | some c' => ∃ next, t.level < next ∧ c'.StandsAt config round next := by
  have hlater : ∀ r ∈ c.filter (fun r => r.waitsBehind t), r ∈ c ∧ t.level < r.level := by
    intro r hr
    obtain ⟨hrc, hrw⟩ := List.mem_filter.mp hr
    exact ⟨hrc, (h.waitsBehind_iff hround hrc).mp hrw⟩
  cases hfront : byPosition (lowest (c.filter fun r => r.waitsBehind t)) with
  | nil =>
    simp only [Chain.openNext?, hfront]
    intro r hr
    by_contra hl
    have hin : r ∈ c.filter fun r => r.waitsBehind t :=
      List.mem_filter.mpr ⟨hr, (h.waitsBehind_iff hround hr).mpr (by omega)⟩
    have hnil : lowest (c.filter fun r => r.waitsBehind t) = [] := by
      have hlen := congrArg List.length hfront
      simpa [byPosition] using hlen
    rw [lowest_eq_nil_iff] at hnil
    simp [hnil] at hin
  | cons first rest =>
    simp only [Chain.openNext?, hfront]
    have hfirst : first ∈ lowest (c.filter fun r => r.waitsBehind t) :=
      mem_byPosition.mp (by rw [hfront]; exact List.mem_cons_self)
    obtain ⟨hin, hmin⟩ := mem_lowest.mp hfirst
    obtain ⟨hfc, hfl⟩ := hlater first hin
    have hlowest : ∀ r ∈ c, t.level < r.level → first.level ≤ r.level := by
      intro r hr hl
      exact hmin r (List.mem_filter.mpr ⟨hr, (h.waitsBehind_iff hround hr).mpr hl⟩)
    refine ⟨first.level, hfl, ?_⟩
    split
    · rename_i hkind
      apply h.openFirst_next hround hfl hlowest time _ ⟨first, hfc, rfl⟩
      exact fun r hr hl => (h.sound.same_kind hr hfc hl).trans hkind
    · rename_i hkind
      apply h.openAll_next hround hfl hlowest time _ ⟨first, hfc, rfl⟩
      intro r hr hl
      rw [h.sound.same_kind hr hfc hl]
      exact hkind

end OpenNext

/-! ## Handing over -/

theorem mem_handOver (h : c.Distinct) (ht : t ∈ c) {id delegate : String} {v : Verdict}
    {r : ApprovalRecord} :
    r ∈ (c.handOver t id delegate v).chain ↔
      (r ∈ c ∧ r ≠ t) ∨ r = t.handedTo delegate v ∨ r = t.replacement id delegate v := by
  obtain ⟨s, hs, hst, he⟩ := replaceFirst_eq_flatMap h (fun r => r.id == t.id)
    (fun r => [r.handedTo delegate v, r.replacement id delegate v]) ⟨t, ht, by simp⟩
  have hchain : (c.handOver t id delegate v).chain =
      c.flatMap fun r =>
        if r.id = t.id then [r.handedTo delegate v, r.replacement id delegate v] else [r] := by
    have hid : s.id = t.id := by simpa using hst
    rw [← hid]
    exact he
  rw [hchain, List.mem_flatMap]
  constructor
  · rintro ⟨r', hr', hin⟩
    split at hin
    · rename_i hid
      rw [h.eq_of_id hr' ht hid] at hin
      exact .inr (by simpa using hin)
    · rename_i hid
      rw [List.mem_singleton.mp hin]
      exact .inl ⟨hr', fun he => hid (he ▸ rfl)⟩
  · rintro (⟨hr, hne⟩ | hr)
    · exact ⟨r, hr, by rw [if_neg fun hid => hne (h.eq_of_id hr ht hid)]; simp⟩
    · exact ⟨t, ht, by simpa using hr⟩

theorem Sound.handOver (h : c.Sound config round) (ht : t ∈ c) (hp : t.status = .pending)
    {id delegate : String} {v : Verdict} (fresh : (c.handOver t id delegate v).chain.Distinct) :
    Sound config round (c.handOver t id delegate v).chain where
  distinct := fresh
  inRound r hr := by
    rcases (mem_handOver h.distinct ht).mp hr with ⟨hr, -⟩ | rfl | rfl
    · exact h.inRound r hr
    · exact h.inRound t ht
    · exact h.inRound t ht
  kind r hr := by
    rcases (mem_handOver h.distinct ht).mp hr with ⟨hr, -⟩ | rfl | rfl
    · exact h.kind r hr
    · exact h.kind t ht
    · exact h.kind t ht
  oneHolder a ha b hb hl hpos hla hlb := by
    -- the delegate holds the place alone: whoever else held it would be the record handed over
    have halone : ∀ r ∈ c, r ≠ t → r.level = t.level → r.position = t.position →
        r.status = .delegated := by
      intro r hr hne hrl hrp
      by_contra hd
      exact hne (h.oneHolder r hr t ht hrl hrp hd (by simp [hp]))
    rcases (mem_handOver h.distinct ht).mp ha with ⟨ha, hna⟩ | rfl | rfl
    · rcases (mem_handOver h.distinct ht).mp hb with ⟨hb, -⟩ | rfl | rfl
      · exact h.oneHolder a ha b hb hl hpos hla hlb
      · exact absurd rfl hlb
      · exact absurd (halone a ha hna hl hpos) hla
    · exact absurd rfl hla
    · rcases (mem_handOver h.distinct ht).mp hb with ⟨hb, hnb⟩ | rfl | rfl
      · exact absurd (halone b hb hnb hl.symm hpos.symm) hlb
      · exact absurd rfl hlb
      · rfl
  handedOver r hr hd := by
    rcases (mem_handOver h.distinct ht).mp hr with ⟨hr, -⟩ | rfl | rfl
    · exact h.handedOver r hr hd
    · exact .inr rfl
    · simp [ApprovalRecord.replacement] at hd

theorem agreesAt_handOver (h : c.Distinct) (ht : t ∈ c) (id delegate : String) (v : Verdict)
    {l : Int} (hl : l ≠ t.level) : c.AgreesAt (c.handOver t id delegate v).chain l := by
  intro r hr
  rw [mem_handOver h ht]
  constructor
  · rintro (⟨hm, -⟩ | rfl | rfl)
    · exact hm
    · exact absurd hr.symm hl
    · exact absurd hr.symm hl
  · intro hm
    exact .inl ⟨hm, fun he => hl (by rw [← hr, he])⟩

theorem LevelOpen.pending_eq (h : c.LevelOpen level) (hsound : c.Sound config round) (ht : t ∈ c)
    (htl : t.level = level) (hp : t.status = .pending) {r : ApprovalRecord} (hr : r ∈ c)
    (hl : r.level = level) (hk : r.kind = .sequential) (hrp : r.status = .pending) : r = t := by
  have hkt : t.kind = .sequential := by
    rw [hsound.same_kind ht hr (htl.trans hl.symm)]
    exact hk
  exact (h.inSequence t ht htl hkt hp r hr hl).1 hrp

theorem LevelOpen.handOver (h : c.LevelOpen level) (hsound : c.Sound config round) (ht : t ∈ c)
    (htl : t.level = level) (hp : t.status = .pending) (id delegate : String) (v : Verdict) :
    (c.handOver t id delegate v).chain.LevelOpen level := by
  have hmem : ∀ r : ApprovalRecord, r ∈ (c.handOver t id delegate v).chain ↔
      (r ∈ c ∧ r ≠ t) ∨ r = t.handedTo delegate v ∨ r = t.replacement id delegate v :=
    fun r => mem_handOver hsound.distinct ht
  constructor
  case reached => exact ⟨t.replacement id delegate v, (hmem _).mpr (.inr (.inr rfl)), htl, rfl⟩
  case undecided =>
    intro r hr hl
    rcases (hmem r).mp hr with ⟨hr, -⟩ | rfl | rfl
    · exact h.undecided r hr hl
    · exact .inr (.inr (.inr rfl))
    · exact .inl rfl
  case inSequence =>
    intro r hr hl hk hrp s hs hsl
    rcases (hmem r).mp hr with ⟨hr, hne⟩ | rfl | rfl
    · exact absurd (h.pending_eq hsound ht htl hp hr hl hk hrp) hne
    · simp [ApprovalRecord.handedTo, ApprovalRecord.decideAs] at hrp
    · rcases (hmem s).mp hs with ⟨hs, hne⟩ | rfl | rfl
      · have hks : s.kind = .sequential := by
          rw [hsound.same_kind hs ht (hsl.trans htl.symm)]
          exact hk
        exact ⟨fun hsp => absurd (h.pending_eq hsound ht htl hp hs hsl hks hsp) hne,
          (h.inSequence t ht htl hk hp s hs hsl).2⟩
      · constructor <;> intro he <;> simp [ApprovalRecord.handedTo, ApprovalRecord.decideAs] at he
      · exact ⟨fun _ => rfl, fun he => by simp [ApprovalRecord.replacement] at he⟩
  case together =>
    intro r hr hl hk
    rcases (hmem r).mp hr with ⟨hr, -⟩ | rfl | rfl
    · exact h.together r hr hl hk
    · simp [ApprovalRecord.handedTo, ApprovalRecord.decideAs]
    · simp [ApprovalRecord.replacement]
  case anyOf =>
    intro r hr hl hk
    rcases (hmem r).mp hr with ⟨hr, -⟩ | rfl | rfl
    · exact h.anyOf r hr hl hk
    · simp [ApprovalRecord.handedTo, ApprovalRecord.decideAs]
    · simp [ApprovalRecord.replacement]
  case held =>
    apply held_of_replaced ht ((hmem _).mpr (.inr (.inr rfl))) rfl rfl
      (by simp [ApprovalRecord.replacement]) _ _ h.held
    · exact fun r hr hne => (hmem r).mpr (.inl ⟨hr, hne⟩)
    · intro r hr
      rcases (hmem r).mp hr with ⟨hr, -⟩ | rfl | rfl
      · exact .inl hr
      · exact .inr ⟨rfl, rfl⟩
      · exact .inr ⟨rfl, rfl⟩

theorem StandsAt.handOver (h : c.StandsAt config round level) (ht : t ∈ c)
    (hp : t.status = .pending) {id delegate : String} {v : Verdict}
    (fresh : (c.handOver t id delegate v).chain.Distinct) :
    (c.handOver t id delegate v).chain.StandsAt config round level := by
  have htl : t.level = level := h.level_of_pending ht hp
  apply h.stay (h.sound.handOver ht hp fresh)
  case hagree =>
    intro l hl
    apply agreesAt_handOver h.sound.distinct ht
    rw [htl]
    exact hl
  case hopen => exact h.here.handOver h.sound ht htl hp id delegate v

/-! ## Rejecting -/

/-- One record was rejected, and nobody is asked any more. -/
structure RejectedAt (config : ApprovalConfig) (round : Int) (c : Chain) (level : Int) : Prop where
  sound : c.Sound config round
  closed : ∀ r ∈ c, r.status.isOpen = false
  one : ∃ a ∈ c, a.level = level ∧ a.status = .rejected ∧ ∀ b ∈ c, b.status = .rejected → b = a

theorem StandsAt.not_rejected (h : c.StandsAt config round level) {r : ApprovalRecord}
    (hr : r ∈ c) : r.status ≠ .rejected := by
  rcases Int.lt_trichotomy r.level level with hl | hl | hl
  · rcases (h.below r.level hl).settled r hr rfl with hs | hs <;> simp [hs]
  · rcases h.here.undecided r hr hl with hs | hs | hs | hs <;> simp [hs]
  · simp [(h.above r.level hl r hr rfl).1]

theorem reject_eq_map (c : Chain) (target : ApprovalRecord) (v : Verdict) :
    (c.reject target v).chain =
      (c.write target.id .rejected v).map fun r => r.dropped target := rfl

theorem StandsAt.reject (h : c.StandsAt config round level) (ht : t ∈ c)
    (hp : t.status = .pending) (v : Verdict) :
    (c.reject t v).chain.RejectedAt config round level := by
  have hmem : ∀ r : ApprovalRecord, r ∈ c.write t.id .rejected v ↔
      (r ∈ c ∧ r ≠ t) ∨ r = t.decideAs .rejected v := fun r => mem_write h.sound.distinct ht
  have hwritten : (c.write t.id .rejected v).Sound config round :=
    h.sound.write ht hp (by simp) v
  have hround : ∀ r ∈ c.write t.id .rejected v, r.round = t.round := by
    intro r hr
    rw [hwritten.inRound r hr, h.sound.inRound t ht]
  -- a record is left as it was, unless it was open
  have hkept : ∀ r ∈ c.write t.id .rejected v,
      r.status.isOpen = false ∧ r.dropped t = r ∨ (r.dropped t).status = .skipped := by
    intro r hr
    cases ho : r.status.isOpen with
    | true => exact .inr (ApprovalRecord.dropped_of_open (hround r hr) ho)
    | false => exact .inl ⟨rfl, ApprovalRecord.dropped_of_closed ho⟩
  rw [reject_eq_map]
  constructor
  case sound =>
    apply hwritten.map fun r => r.sameSeat_dropped t
    · intro r _ hd
      rw [ApprovalRecord.dropped_of_closed (by simp [hd, ApprovalStatus.isOpen])]
      exact hd
    · intro r hr hd
      rcases hkept r hr with ⟨-, he⟩ | hs
      · rw [he] at hd ⊢
        exact hwritten.handedOver r hr hd
      · simp [hs] at hd
  case closed =>
    intro r hr
    obtain ⟨s, hs, rfl⟩ := List.mem_map.mp hr
    rcases hkept s hs with ⟨ho, he⟩ | hk
    · rw [he]
      exact ho
    · simp [hk, ApprovalStatus.isOpen]
  case one =>
    have htl : t.level = level := h.level_of_pending ht hp
    refine ⟨t.decideAs .rejected v, ?_, htl, rfl, ?_⟩
    · exact List.mem_map.mpr ⟨_, (hmem _).mpr (.inr rfl), ApprovalRecord.dropped_of_closed rfl⟩
    · intro b hb hbr
      obtain ⟨s, hs, rfl⟩ := List.mem_map.mp hb
      rcases hkept s hs with ⟨-, he⟩ | hk
      · rw [he] at hbr ⊢
        rcases (hmem s).mp hs with ⟨hsc, -⟩ | rfl
        · exact absurd hbr (h.not_rejected hsc)
        · rfl
      · simp [hk] at hbr

end Chain
end Formwork
