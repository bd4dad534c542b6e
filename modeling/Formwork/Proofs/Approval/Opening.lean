import Formwork.Proofs.Approval.Run
import Formwork.Proofs.Approval.Standing
/-!
# Opening a level

Records are opened in three ways: the next one of a sequence, the first one of a sequence that is
reached, and all records of another level that is reached. Each makes its level open.
-/
namespace Formwork

open Calendar

theorem ApprovalRecord.SameSeat.refl (r : ApprovalRecord) : r.SameSeat r := ⟨rfl, rfl, rfl, rfl, rfl⟩

theorem ApprovalRecord.SameSeat.trans {a b c : ApprovalRecord} (h : a.SameSeat b)
    (h' : b.SameSeat c) : a.SameSeat c where
  id := h'.id.trans h.id
  level := h'.level.trans h.level
  kind := h'.kind.trans h.kind
  position := h'.position.trans h.position
  round := h'.round.trans h.round

theorem ApprovalRecord.SameSeat.ite {r s : ApprovalRecord} (h : r.SameSeat s) (p : Prop)
    [Decidable p] : r.SameSeat (if p then s else r) := by
  split
  · exact h
  · exact .refl r

theorem ApprovalRecord.sameSeat_request (r : ApprovalRecord) (time : Stamp) :
    r.SameSeat (r.request time) := ⟨rfl, rfl, rfl, rfl, rfl⟩

theorem ApprovalRecord.sameSeat_marked (r : ApprovalRecord) : r.SameSeat r.marked :=
  ⟨rfl, rfl, rfl, rfl, rfl⟩

theorem ApprovalRecord.sameSeat_decideAs (r : ApprovalRecord) (status : ApprovalStatus)
    (v : Verdict) : r.SameSeat (r.decideAs status v) := ⟨rfl, rfl, rfl, rfl, rfl⟩

namespace Chain

variable {config : ApprovalConfig} {round level : Int} {c : Chain}

theorem Sound.openRecord (h : c.Sound config round) {w : ApprovalRecord} (time : Stamp)
    (hw : w ∈ c) (hwait : w.status = .waiting) :
    Sound config round (c.map fun r => if r.id = w.id then r.request time else r) := by
  have hother : ∀ r ∈ c, r.status = .delegated → r.id ≠ w.id := by
    intro r hr hd hid
    rw [h.distinct.eq_of_id hr hw hid, hwait] at hd
    cases hd
  apply h.map
  · intro r
    exact (r.sameSeat_request time).ite _
  · intro r hr hd
    rw [if_neg (hother r hr hd)]
    exact hd
  · intro r hr hd
    split at hd
    · simp [ApprovalRecord.request] at hd
    · rename_i hid
      rw [if_neg hid]
      exact h.handedOver r hr hd

/-- In a sequence, a waiting record before all others that wait can be asked next, once nobody else
is. -/
theorem LevelOpen.of_first (h : c.Sound config round) {w : ApprovalRecord} (time : Stamp)
    (hw : w ∈ c) (hwait : w.status = .waiting) (hkind : w.kind = .sequential)
    (hothers : ∀ r ∈ c, r.level = w.level →
      r.status = .waiting ∨ r.status = .approved ∨ r.status = .delegated)
    (hfirst : ∀ r ∈ c, r.level = w.level → r.status = .waiting → w.position ≤ r.position)
    (hheld : ∀ r ∈ c, r.level = w.level →
      ∃ a ∈ c, a.level = w.level ∧ a.position = r.position ∧ a.status ≠ .delegated) :
    LevelOpen (c.map fun r => if r.id = w.id then r.request time else r) w.level := by
  have hmem : ∀ r : ApprovalRecord,
      r ∈ (c.map fun r => if r.id = w.id then r.request time else r) ↔
        (r ∈ c ∧ r ≠ w) ∨ r = w.request time := fun r => mem_map_one h.distinct hw
  have hsame : ∀ r ∈ c, r.level = w.level → r.kind = .sequential := by
    intro r hr hl
    rw [h.same_kind hr hw hl]
    exact hkind
  have hseq : ∀ r ∈ (c.map fun r => if r.id = w.id then r.request time else r),
      r.level = w.level → r.kind = .sequential := by
    intro r hr hl
    rcases (hmem r).mp hr with ⟨hr, -⟩ | rfl
    · exact hsame r hr hl
    · exact hkind
  constructor
  case reached => exact ⟨w.request time, (hmem _).mpr (.inr rfl), rfl, rfl⟩
  case undecided =>
    intro r hr hl
    rcases (hmem r).mp hr with ⟨hr, -⟩ | rfl
    · exact .inr (hothers r hr hl)
    · exact .inl rfl
  case inSequence =>
    intro r hr hl _ hp s hs hsl
    have hrw : r = w.request time := by
      rcases (hmem r).mp hr with ⟨hr, -⟩ | rfl
      · rcases hothers r hr hl with he | he | he <;> simp [he] at hp
      · rfl
    subst hrw
    rcases (hmem s).mp hs with ⟨hs, hne⟩ | rfl
    · constructor
      · intro hsp
        rcases hothers s hs hsl with he | he | he <;> simp [he] at hsp
      · intro hsw
        have hle : w.position ≤ s.position := hfirst s hs hsl hsw
        have hpos : s.position ≠ w.position := by
          intro he
          exact hne (h.oneHolder s hs w hw hsl he (by simp [hsw]) (by simp [hwait]))
        change w.position < s.position
        omega
    · exact ⟨fun _ => rfl, fun hsw => by simp [ApprovalRecord.request] at hsw⟩
  case together =>
    intro r hr hl hk
    exact absurd (hseq r hr hl) hk
  case anyOf =>
    intro r hr hl hk
    rw [hseq r hr hl] at hk
    cases hk
  case held =>
    apply held_of_replaced hw ((hmem _).mpr (.inr rfl)) (w.sameSeat_request time).level rfl
      (by simp [ApprovalRecord.request]) _ _ hheld
    · exact fun r hr hne => (hmem r).mpr (.inl ⟨hr, hne⟩)
    · intro r hr
      rcases (hmem r).mp hr with ⟨hr, -⟩ | rfl
      · exact .inl hr
      · exact .inr ⟨rfl, rfl⟩

/-- Of a level that nothing has happened at, all records can be asked at once, unless it is a
sequence. -/
theorem LevelOpen.of_all {f : ApprovalRecord → ApprovalRecord} (time : Stamp)
    (hsome : ∃ r ∈ c, r.level = level)
    (hlevel : ∀ r : ApprovalRecord, (f r).level = r.level)
    (hf : ∀ r ∈ c, r.level = level → f r = r.request time)
    (hkind : ∀ r ∈ c, r.level = level → r.kind ≠ .sequential) :
    LevelOpen (c.map f) level := by
  have hmem : ∀ r ∈ c.map f, r.level = level → ∃ s ∈ c, s.level = level ∧ r = s.request time := by
    intro r hr hl
    obtain ⟨s, hs, rfl⟩ := List.mem_map.mp hr
    rw [hlevel s] at hl
    exact ⟨s, hs, hl, hf s hs hl⟩
  have hpending : ∀ r ∈ c.map f, r.level = level → r.status = .pending := by
    intro r hr hl
    obtain ⟨s, _, _, rfl⟩ := hmem r hr hl
    rfl
  have hother : ∀ r ∈ c.map f, r.level = level → r.kind ≠ .sequential := by
    intro r hr hl
    obtain ⟨s, hs, hsl, rfl⟩ := hmem r hr hl
    exact hkind s hs hsl
  constructor
  case reached =>
    obtain ⟨s, hs, hsl⟩ := hsome
    have hin : f s ∈ c.map f := List.mem_map.mpr ⟨s, hs, rfl⟩
    have hl : (f s).level = level := by rw [hlevel s, hsl]
    exact ⟨f s, hin, hl, hpending _ hin hl⟩
  case undecided => exact fun r hr hl => .inl (hpending r hr hl)
  case inSequence => exact fun r hr hl hk => absurd hk (hother r hr hl)
  case together => exact fun r hr hl _ => by simp [hpending r hr hl]
  case anyOf => exact fun r hr hl _ => by simp [hpending r hr hl]
  case held => exact fun r hr hl => ⟨r, hr, hl, rfl, by simp [hpending r hr hl]⟩

end Chain
end Formwork
