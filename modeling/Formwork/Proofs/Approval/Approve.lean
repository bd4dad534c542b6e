import Formwork.Proofs.Approval.Opening
/-!
# An approval within its level

An approval is written into its record and carried on through the level: any one is enough, the next
in a sequence is asked, or the others are awaited. Either way the chain stays at the level, or the
level is cleared and no other has been opened yet.
-/
namespace Formwork

open Calendar

namespace ApprovalRecord

/-- What becomes of a record when one at its level is decided that is enough for all of them. -/
def superseded (r target : ApprovalRecord) (time : Stamp) : ApprovalRecord :=
  if r.isBeside target && r.status.isOpen then
    { r with status := .delegated, decidedAt := some time }
  else r

theorem sameSeat_superseded (r target : ApprovalRecord) (time : Stamp) :
    r.SameSeat (r.superseded target time) := by
  unfold superseded
  split <;> constructor <;> rfl

theorem superseded_of_open {r target : ApprovalRecord} {time : Stamp}
    (hb : r.isBeside target = true) (ho : r.status.isOpen = true) :
    (r.superseded target time).status = .delegated := by
  simp [superseded, hb, ho]

theorem superseded_of_closed {r target : ApprovalRecord} {time : Stamp}
    (ho : r.status.isOpen = false) : r.superseded target time = r := by
  simp [superseded, ho]

theorem superseded_of_not_beside {r target : ApprovalRecord} {time : Stamp}
    (hb : ¬ r.isBeside target = true) : r.superseded target time = r := by
  simp [superseded, hb]

end ApprovalRecord

namespace Chain

variable {config : ApprovalConfig} {round level : Int} {c c' : Chain} {t : ApprovalRecord}

/-! ## Standing, after a change of one level -/

theorem AgreesAt.trans {c'' : Chain} {l : Int} (h : c.AgreesAt c' l) (h' : c'.AgreesAt c'' l) :
    c.AgreesAt c'' l :=
  fun r hr => (h' r hr).trans (h r hr)

theorem StandsAt.stay (h : c.StandsAt config round level) (hsound : c'.Sound config round)
    (hagree : ∀ l ≠ level, c.AgreesAt c' l) (hopen : c'.LevelOpen level) :
    c'.StandsAt config round level where
  sound := hsound
  below l hl := (h.below l hl).congr (hagree l (by omega))
  here := hopen
  above l hl := (h.above l hl).congr (hagree l (by omega))

theorem StandsAt.clear (h : c.StandsAt config round level) (hsound : c'.Sound config round)
    (hagree : ∀ l ≠ level, c.AgreesAt c' l) (hcleared : c'.LevelCleared level) :
    c'.StandsBefore config round (level + 1) where
  sound := hsound
  below l hl := by
    by_cases he : l = level
    · rw [he]
      exact hcleared
    · exact (h.below l (by omega)).congr (hagree l he)
  above l hl := (h.above l (by omega)).congr (hagree l (by omega))

theorem StandsBefore.reach {bound : Int} (h : c.StandsBefore config round bound)
    (hsound : c'.Sound config round) (hbound : bound ≤ level)
    (hnext : ∀ r ∈ c, bound ≤ r.level → level ≤ r.level)
    (hagree : ∀ l ≠ level, c.AgreesAt c' l) (hopen : c'.LevelOpen level) :
    c'.StandsAt config round level where
  sound := hsound
  below l hl := by
    have he := hagree l (by omega)
    by_cases hlb : l < bound
    · exact (h.below l hlb).congr he
    · apply LevelCleared.of_empty
      intro r hr hrl
      have hle := hnext r ((he r hrl).mp hr) (by omega)
      omega
  here := hopen
  above l hl := (h.above l (by omega)).congr (hagree l (by omega))

theorem StandsAt.level_of_pending (h : c.StandsAt config round level) (ht : t ∈ c)
    (hp : t.status = .pending) : t.level = level := by
  by_contra hne
  rcases Int.lt_or_gt_of_ne hne with hlt | hgt
  · rcases (h.below t.level hlt).settled t ht rfl with hs | hs <;> simp [hp] at hs
  · have hs := (h.above t.level hgt t ht rfl).1
    simp [hp] at hs

/-! ## Approval -/

theorem settle_eq_map (c : Chain) (target : ApprovalRecord) (time : Stamp) :
    c.settle target time = c.map fun r => r.superseded target time := rfl

theorem mem_write (h : c.Distinct) (ht : t ∈ c) {status : ApprovalStatus} {v : Verdict}
    {r : ApprovalRecord} :
    r ∈ c.write t.id status v ↔ (r ∈ c ∧ r ≠ t) ∨ r = t.decideAs status v := by
  rw [write_eq_map h ht]
  exact mem_map_one h ht

theorem agreesAt_write (h : c.Distinct) (ht : t ∈ c) (status : ApprovalStatus) (v : Verdict)
    {l : Int} (hl : l ≠ t.level) : c.AgreesAt (c.write t.id status v) l := by
  rw [write_eq_map h ht]
  exact agreesAt_map_one h ht rfl hl

theorem Sound.write (h : c.Sound config round) (ht : t ∈ c) (hp : t.status = .pending)
    {status : ApprovalStatus} (hs : status ≠ .delegated) (v : Verdict) :
    Sound config round (c.write t.id status v) := by
  have hother : ∀ r ∈ c, r.status = .delegated → r.id ≠ t.id := by
    intro r hr hd hid
    rw [h.distinct.eq_of_id hr ht hid, hp] at hd
    cases hd
  rw [write_eq_map h.distinct ht]
  apply h.map
  · intro r
    exact (r.sameSeat_decideAs status v).ite _
  · intro r hr hd
    rw [if_neg (hother r hr hd)]
    exact hd
  · intro r hr hd
    split at hd
    · exact absurd hd hs
    · rename_i hid
      rw [if_neg hid]
      exact h.handedOver r hr hd

theorem Sound.isBeside_iff (h : c.Sound config round) (ht : t.round = round) {r : ApprovalRecord}
    (hr : r ∈ c) : r.isBeside t = true ↔ r.level = t.level := by
  simp [ApprovalRecord.isBeside, h.inRound r hr, ht]

section Approval

variable (h : c.StandsAt config round level) (ht : t ∈ c) (v : Verdict)

include h ht

theorem StandsAt.mem_approved {r : ApprovalRecord} (hr : r ∈ c.write t.id .approved v)
    (hl : r.level = level) :
    (r ∈ c ∧ r ≠ t ∧ (r.status = .pending ∨ r.status = .waiting ∨ r.status = .approved ∨
      r.status = .delegated)) ∨ r = t.decideAs .approved v := by
  rcases (mem_write h.sound.distinct ht).mp hr with ⟨hr, hne⟩ | rfl
  · exact .inl ⟨hr, hne, h.here.undecided r hr hl⟩
  · exact .inr rfl

theorem StandsAt.held_approved {r : ApprovalRecord} (hr : r ∈ c.write t.id .approved v)
    (hl : r.level = level) :
    ∃ a ∈ c.write t.id .approved v, a.level = level ∧ a.position = r.position ∧
      a.status ≠ .delegated := by
  have hmem : ∀ a : ApprovalRecord, a ∈ c.write t.id .approved v ↔
      (a ∈ c ∧ a ≠ t) ∨ a = t.decideAs .approved v := fun a => mem_write h.sound.distinct ht
  apply held_of_replaced ht ((hmem _).mpr (.inr rfl)) (t.sameSeat_decideAs .approved v).level rfl
    (by simp [ApprovalRecord.decideAs]) _ _ h.here.held r hr hl
  · exact fun s hs hne => (hmem s).mpr (.inl ⟨hs, hne⟩)
  · intro s hs
    rcases (hmem s).mp hs with ⟨hs, -⟩ | rfl
    · exact .inl hs
    · exact .inr ⟨rfl, rfl⟩

theorem StandsAt.kind_approved (hp : t.status = .pending) {r : ApprovalRecord}
    (hr : r ∈ c.write t.id .approved v) (hl : r.level = level) : r.kind = t.kind := by
  rcases (mem_write h.sound.distinct ht).mp hr with ⟨hrc, -⟩ | rfl
  · exact h.sound.same_kind hrc ht (by rw [hl, h.level_of_pending ht hp])
  · rfl

theorem StandsAt.isBeside_approved (hp : t.status = .pending) {r : ApprovalRecord}
    (hr : r ∈ c.write t.id .approved v) : r.isBeside t = true ↔ r.level = level := by
  rw [(h.sound.write ht hp (by simp) v).isBeside_iff (h.sound.inRound t ht) hr,
    h.level_of_pending ht hp]

theorem StandsAt.agreesAt_approved (hp : t.status = .pending) {l : Int} (hl : l ≠ level) :
    c.AgreesAt (c.write t.id .approved v) l :=
  agreesAt_write h.sound.distinct ht .approved v (by rw [h.level_of_pending ht hp]; exact hl)

/-- An approval clears a level when nobody there is left undecided, unless one approval is enough
there. -/
theorem StandsAt.clear_of_none_open (hp : t.status = .pending) (hkind : t.kind ≠ .anyOf)
    (hnone : ∀ r ∈ c, r.level = level → r ≠ t → r.status ≠ .pending ∧ r.status ≠ .waiting) :
    (c.write t.id .approved v).StandsBefore config round (level + 1) := by
  have hsettled : ∀ r ∈ c.write t.id .approved v, r.level = level →
      r.status = .approved ∨ r.status = .delegated := by
    intro r hr hl
    rcases h.mem_approved ht v hr hl with ⟨hrc, hne, hs⟩ | rfl
    · obtain ⟨hnp, hnw⟩ := hnone r hrc hl hne
      simpa [hnp, hnw] using hs
    · exact .inl rfl
  apply h.clear (h.sound.write ht hp (by simp) v) fun l hl => h.agreesAt_approved ht v hp hl
  constructor
  case settled => exact hsettled
  case anyOf =>
    intro r hr hl hk
    rw [h.kind_approved ht v hp hr hl] at hk
    exact absurd hk hkind
  case each =>
    intro r hr hl _
    obtain ⟨a, ha, hal, hap, had⟩ := h.held_approved ht v hr hl
    rcases hsettled a ha hal with has | has
    · exact ⟨a, ha, hal, hap, has⟩
    · exact absurd has had

/-! ### Where any approval is enough -/

theorem StandsAt.superseded_approved (hp : t.status = .pending) (hkind : t.kind = .anyOf)
    (time : Stamp) {r : ApprovalRecord} (hr : r ∈ c.write t.id .approved v) (hl : r.level = level) :
    r = t.decideAs .approved v ∨ (r.superseded t time).status = .delegated := by
  have hbeside : r.isBeside t = true := (h.isBeside_approved ht v hp hr).mpr hl
  have hkr : r.kind = .anyOf := (h.kind_approved ht v hp hr hl).trans hkind
  rcases h.mem_approved ht v hr hl with ⟨hrc, -, hs⟩ | rfl
  · right
    rcases hs with hs | hs | hs | hs
    · exact ApprovalRecord.superseded_of_open hbeside (by simp [hs, ApprovalStatus.isOpen])
    · exact ApprovalRecord.superseded_of_open hbeside (by simp [hs, ApprovalStatus.isOpen])
    · exact absurd hs (h.here.anyOf r hrc hl hkr)
    · rw [ApprovalRecord.superseded_of_closed (by simp [hs, ApprovalStatus.isOpen])]
      exact hs
  · exact .inl rfl

theorem StandsAt.sound_settle (hp : t.status = .pending) (hkind : t.kind = .anyOf) (time : Stamp) :
    ((c.write t.id .approved v).settle t time).Sound config round := by
  have hwritten : (c.write t.id .approved v).Sound config round := h.sound.write ht hp (by simp) v
  rw [settle_eq_map]
  apply hwritten.map fun r => r.sameSeat_superseded t time
  · intro r _ hd
    rw [ApprovalRecord.superseded_of_closed (by simp [hd, ApprovalStatus.isOpen])]
    exact hd
  · intro r hr hd
    by_cases hb : r.isBeside t = true
    · left
      rw [h.kind_approved ht v hp hr ((h.isBeside_approved ht v hp hr).mp hb)]
      exact hkind
    · rw [ApprovalRecord.superseded_of_not_beside hb] at hd ⊢
      exact hwritten.handedOver r hr hd

theorem StandsAt.settle_anyOf (hp : t.status = .pending) (hkind : t.kind = .anyOf) (time : Stamp) :
    ((c.write t.id .approved v).settle t time).StandsBefore config round (level + 1) := by
  have hmine : t.decideAs .approved v ∈ c.write t.id .approved v :=
    (mem_write h.sound.distinct ht).mpr (.inr rfl)
  have hkept : (t.decideAs .approved v).superseded t time = t.decideAs .approved v :=
    ApprovalRecord.superseded_of_closed rfl
  have hfrom : ∀ r ∈ (c.write t.id .approved v).settle t time, r.level = level →
      r.kind = .anyOf ∧ (r = t.decideAs .approved v ∨ r.status = .delegated) := by
    intro r hr hl
    rw [settle_eq_map] at hr
    obtain ⟨s, hs, rfl⟩ := List.mem_map.mp hr
    rw [(s.sameSeat_superseded t time).level] at hl
    constructor
    · rw [(s.sameSeat_superseded t time).kind, h.kind_approved ht v hp hs hl]
      exact hkind
    · rcases h.superseded_approved ht v hp hkind time hs hl with rfl | hd
      · exact .inl hkept
      · exact .inr hd
  apply h.clear (h.sound_settle ht v hp hkind time)
  case hagree =>
    intro l hl
    apply (h.agreesAt_approved ht v hp hl).trans
    rw [settle_eq_map]
    apply agreesAt_map (fun r _ => (r.sameSeat_superseded t time).level) _ hl
    intro r hr hrl
    apply ApprovalRecord.superseded_of_not_beside
    rw [h.isBeside_approved ht v hp hr]
    exact hrl
  case hcleared =>
    constructor
    case settled =>
      intro r hr hl
      rcases (hfrom r hr hl).2 with rfl | hd
      · exact .inl rfl
      · exact .inr hd
    case anyOf =>
      intro _ _ _ _
      have htl : t.level = level := h.level_of_pending ht hp
      refine ⟨t.decideAs .approved v, ?_, htl, rfl, ?_⟩
      · rw [settle_eq_map]
        exact List.mem_map.mpr ⟨_, hmine, hkept⟩
      · intro b hb hbl hba
        rcases (hfrom b hb hbl).2 with rfl | hd
        · rfl
        · rw [hba] at hd
          cases hd
    case each => exact fun r hr hl hk => absurd (hfrom r hr hl).1 hk

/-! ### In a sequence -/

theorem StandsAt.openFirst_sequential (hp : t.status = .pending) (hkind : t.kind = .sequential)
    (time : Stamp)
    (hwait : ∃ r ∈ c.write t.id .approved v, (r.isBeside t && r.isWaiting) = true) :
    ((c.write t.id .approved v).openFirst (fun r => r.isBeside t && r.isWaiting) time).StandsAt
      config round level := by
  have hwritten : (c.write t.id .approved v).Sound config round := h.sound.write ht hp (by simp) v
  have hwaits : ∀ r ∈ c.write t.id .approved v, (r.isBeside t && r.isWaiting) = true ↔
      r.level = level ∧ r.status = .waiting := by
    intro r hr
    simp [h.isBeside_approved ht v hp hr, ApprovalRecord.isWaiting]
  obtain ⟨w, hw, hwt, hmin, he⟩ := openFirst_eq_map hwritten.distinct time hwait
  obtain ⟨hwl, hws⟩ := (hwaits w hw).mp hwt
  rw [he]
  apply h.stay (hwritten.openRecord time hw hws)
  case hagree =>
    intro l hl
    exact (h.agreesAt_approved ht v hp hl).trans
      (agreesAt_map_one hwritten.distinct hw (w.sameSeat_request time).level (hwl ▸ hl))
  case hopen =>
    rw [← hwl]
    apply LevelOpen.of_first hwritten time hw hws
    · rw [h.kind_approved ht v hp hw hwl]
      exact hkind
    · intro r hr hl
      rw [hwl] at hl
      rcases h.mem_approved ht v hr hl with ⟨hrc, hne, hs⟩ | rfl
      · have hnp : r.status ≠ .pending := by
          intro hrp
          exact hne ((h.here.inSequence t ht (h.level_of_pending ht hp) hkind hp r hrc hl).1 hrp)
        simpa [hnp] using hs
      · exact .inr (.inl rfl)
    · intro r hr hl hs
      exact hmin r hr ((hwaits r hr).mpr ⟨by rw [hl, hwl], hs⟩)
    · intro r hr hl
      rw [hwl] at hl ⊢
      exact h.held_approved ht v hr hl

theorem StandsAt.clear_sequential (hp : t.status = .pending) (hkind : t.kind = .sequential)
    (hwait : ¬ ∃ r ∈ c.write t.id .approved v, (r.isBeside t && r.isWaiting) = true) :
    (c.write t.id .approved v).StandsBefore config round (level + 1) := by
  apply h.clear_of_none_open ht v hp (by simp [hkind])
  intro r hr hl hne
  have hin : r ∈ c.write t.id .approved v := (mem_write h.sound.distinct ht).mpr (.inl ⟨hr, hne⟩)
  constructor
  · intro hrp
    exact hne ((h.here.inSequence t ht (h.level_of_pending ht hp) hkind hp r hr hl).1 hrp)
  · intro hrw
    apply hwait
    exact ⟨r, hin, by simp [h.isBeside_approved ht v hp hin, hl, ApprovalRecord.isWaiting, hrw]⟩

/-! ### Where everybody is asked -/

theorem StandsAt.stay_parallel (hp : t.status = .pending) (hkind : t.kind = .parallel)
    (hsome : ∃ r ∈ c.write t.id .approved v, (r.isBeside t && r.status.isOpen) = true) :
    (c.write t.id .approved v).StandsAt config round level := by
  have hkinds : ∀ r ∈ c.write t.id .approved v, r.level = level → r.kind = .parallel :=
    fun r hr hl => (h.kind_approved ht v hp hr hl).trans hkind
  have hnotWaiting : ∀ r ∈ c.write t.id .approved v, r.level = level → r.status ≠ .waiting := by
    intro r hr hl
    rcases h.mem_approved ht v hr hl with ⟨hrc, -, -⟩ | rfl
    · exact h.here.together r hrc hl (by simp [hkinds r hr hl])
    · simp [ApprovalRecord.decideAs]
  apply h.stay (h.sound.write ht hp (by simp) v) fun l hl => h.agreesAt_approved ht v hp hl
  constructor
  case reached =>
    obtain ⟨r, hr, hro⟩ := hsome
    rw [Bool.and_eq_true, h.isBeside_approved ht v hp hr, ApprovalStatus.isOpen_iff] at hro
    exact ⟨r, hr, hro.1, hro.2.resolve_left (hnotWaiting r hr hro.1)⟩
  case undecided =>
    intro r hr hl
    rcases h.mem_approved ht v hr hl with ⟨-, -, hs⟩ | rfl
    · exact hs
    · exact .inr (.inr (.inl rfl))
  case inSequence => exact fun r hr hl hk => by simp [hkinds r hr hl] at hk
  case together => exact fun r hr hl _ => hnotWaiting r hr hl
  case anyOf => exact fun r hr hl hk => by simp [hkinds r hr hl] at hk
  case held => exact fun r hr hl => h.held_approved ht v hr hl

theorem StandsAt.clear_parallel (hp : t.status = .pending) (hkind : t.kind = .parallel)
    (hnone : ¬ ∃ r ∈ c.write t.id .approved v, (r.isBeside t && r.status.isOpen) = true) :
    (c.write t.id .approved v).StandsBefore config round (level + 1) := by
  apply h.clear_of_none_open ht v hp (by simp [hkind])
  intro r hr hl hne
  have hin : r ∈ c.write t.id .approved v := (mem_write h.sound.distinct ht).mpr (.inl ⟨hr, hne⟩)
  have hclosed : ¬ r.status.isOpen = true := fun ho =>
    hnone ⟨r, hin, by simp [h.isBeside_approved ht v hp hin, hl, ho]⟩
  rw [ApprovalStatus.isOpen_iff, not_or] at hclosed
  exact ⟨hclosed.2, hclosed.1⟩

/-- An approval that is carried on through its level clears it, or leaves it open, as the answer
says. -/
theorem StandsAt.advance (hp : t.status = .pending) (time : Stamp) {cleared : Bool}
    (he : (c.write t.id .approved v).advance t time = (c', cleared)) :
    if cleared then c'.StandsBefore config round (level + 1)
    else c'.StandsAt config round level := by
  cases hkind : t.kind with
  | anyOf =>
    simp only [Chain.advance, hkind, Prod.mk.injEq] at he
    obtain ⟨rfl, rfl⟩ := he
    exact h.settle_anyOf ht v hp hkind time
  | sequential =>
    simp only [Chain.advance, hkind] at he
    split at he
    · rename_i hwait
      simp only [Prod.mk.injEq] at he
      obtain ⟨rfl, rfl⟩ := he
      exact h.openFirst_sequential ht v hp hkind time (List.any_eq_true.mp hwait)
    · rename_i hwait
      rw [List.any_eq_true] at hwait
      have hcleared := h.clear_sequential ht v hp hkind hwait
      have hnone : (c.write t.id .approved v).any (fun r => r.isBeside t && r.isPending) = false := by
        rw [List.any_eq_false]
        intro r hr hrp
        simp only [Bool.and_eq_true, h.isBeside_approved ht v hp hr, ApprovalRecord.isPending,
          decide_eq_true_eq] at hrp
        rcases (hcleared.below level (by omega)).settled r hr hrp.1 with hs | hs <;>
          simp [hrp.2] at hs
      simp only [hnone, Bool.not_false, Prod.mk.injEq] at he
      obtain ⟨rfl, rfl⟩ := he
      exact hcleared
  | parallel =>
    simp only [Chain.advance, hkind, Prod.mk.injEq] at he
    obtain ⟨rfl, rfl⟩ := he
    split
    · rename_i hnone
      apply h.clear_parallel ht v hp hkind
      rw [← List.any_eq_true]
      simpa using hnone
    · rename_i hsome
      apply h.stay_parallel ht v hp hkind
      rw [← List.any_eq_true]
      simpa using hsome

end Approval

end Chain
end Formwork
