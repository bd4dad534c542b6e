import Formwork.Proofs.Approval.Records
/-!
# Where a chain stands

A chain that awaits decisions stands at one of its levels: the levels below are cleared, the levels
above have not been reached, and at the level itself somebody is asked. The three conditions speak of
the records of one level only, so a change of a level leaves what is known of the others alone.
-/
namespace Formwork

/-- The kind of the level with an index, if the configuration has one. -/
def ApprovalConfig.kindAt? (config : ApprovalConfig) (level : Int) : Option LevelKind :=
  if 0 ≤ level then config.levels[level.toNat]?.map (·.kind) else none

/-- Two records are for the same decision. -/
structure ApprovalRecord.SameSeat (r s : ApprovalRecord) : Prop where
  id : s.id = r.id
  level : s.level = r.level
  kind : s.kind = r.kind
  position : s.position = r.position
  round : s.round = r.round

namespace Chain

/-- The records of one round of a configuration. A place in a level is held by one record at most;
all others of that place were handed over. -/
structure Sound (config : ApprovalConfig) (round : Int) (c : Chain) : Prop where
  distinct : c.Distinct
  inRound : ∀ r ∈ c, r.round = round
  kind : ∀ r ∈ c, config.kindAt? r.level = some r.kind
  oneHolder : ∀ a ∈ c, ∀ b ∈ c, a.level = b.level → a.position = b.position →
    a.status ≠ .delegated → b.status ≠ .delegated → a = b
  handedOver : ∀ r ∈ c, r.status = .delegated → r.kind = .anyOf ∨ r.delegatedTo.isSome = true

/-- Enough was approved at the level: one record where any is enough, else one at each place. -/
structure LevelCleared (c : Chain) (level : Int) : Prop where
  settled : ∀ r ∈ c, r.level = level → r.status = .approved ∨ r.status = .delegated
  anyOf : ∀ r ∈ c, r.level = level → r.kind = .anyOf →
    ∃ a ∈ c, a.level = level ∧ a.status = .approved ∧
      ∀ b ∈ c, b.level = level → b.status = .approved → b = a
  each : ∀ r ∈ c, r.level = level → r.kind ≠ .anyOf →
    ∃ a ∈ c, a.level = level ∧ a.position = r.position ∧ a.status = .approved

/-- Somebody is asked at the level: in a sequence one approver before all who wait, else everybody
who has not decided. -/
structure LevelOpen (c : Chain) (level : Int) : Prop where
  reached : ∃ r ∈ c, r.level = level ∧ r.status = .pending
  undecided : ∀ r ∈ c, r.level = level → r.status = .pending ∨ r.status = .waiting ∨
    r.status = .approved ∨ r.status = .delegated
  inSequence : ∀ r ∈ c, r.level = level → r.kind = .sequential → r.status = .pending →
    ∀ s ∈ c, s.level = level →
      (s.status = .pending → s = r) ∧ (s.status = .waiting → r.position < s.position)
  together : ∀ r ∈ c, r.level = level → r.kind ≠ .sequential → r.status ≠ .waiting
  anyOf : ∀ r ∈ c, r.level = level → r.kind = .anyOf → r.status ≠ .approved
  held : ∀ r ∈ c, r.level = level →
    ∃ a ∈ c, a.level = level ∧ a.position = r.position ∧ a.status ≠ .delegated

/-- Nothing has happened at the level. -/
def LevelAhead (c : Chain) (level : Int) : Prop :=
  ∀ r ∈ c, r.level = level → r.status = .waiting ∧ r.requestedAt = none ∧ r.decidedAt = none

/-- The chain awaits decisions at a level. -/
structure StandsAt (config : ApprovalConfig) (round : Int) (c : Chain) (level : Int) : Prop where
  sound : c.Sound config round
  below : ∀ l < level, c.LevelCleared l
  here : c.LevelOpen level
  above : ∀ l, level < l → c.LevelAhead l

/-- The levels below a bound are cleared, and the chain has not gone on to the others. -/
structure StandsBefore (config : ApprovalConfig) (round : Int) (c : Chain) (bound : Int) : Prop where
  sound : c.Sound config round
  below : ∀ l < bound, c.LevelCleared l
  above : ∀ l, bound ≤ l → c.LevelAhead l

variable {config : ApprovalConfig} {round : Int} {c c' : Chain}

theorem Sound.same_kind (h : c.Sound config round) {a b : ApprovalRecord} (ha : a ∈ c) (hb : b ∈ c)
    (hl : a.level = b.level) : a.kind = b.kind := by
  have hk := h.kind a ha
  rw [hl, h.kind b hb] at hk
  exact (Option.some.inj hk).symm

theorem LevelCleared.of_empty {level : Int} (h : ∀ r ∈ c, r.level ≠ level) :
    c.LevelCleared level where
  settled r hr hl := absurd hl (h r hr)
  anyOf r hr hl := absurd hl (h r hr)
  each r hr hl := absurd hl (h r hr)

/-! ## Changes elsewhere -/

/-- Two chains have the same records at a level. -/
def AgreesAt (c c' : Chain) (level : Int) : Prop :=
  ∀ r : ApprovalRecord, r.level = level → (r ∈ c' ↔ r ∈ c)

theorem LevelCleared.congr {level : Int} (h : c.LevelCleared level) (he : c.AgreesAt c' level) :
    c'.LevelCleared level where
  settled r hr hl := h.settled r ((he r hl).mp hr) hl
  anyOf r hr hl hk := by
    obtain ⟨a, ha, hal, hap, hone⟩ := h.anyOf r ((he r hl).mp hr) hl hk
    exact ⟨a, (he a hal).mpr ha, hal, hap, fun b hb hbl hbp => hone b ((he b hbl).mp hb) hbl hbp⟩
  each r hr hl hk := by
    obtain ⟨a, ha, hal, hap⟩ := h.each r ((he r hl).mp hr) hl hk
    exact ⟨a, (he a hal).mpr ha, hal, hap⟩

theorem LevelAhead.congr {level : Int} (h : c.LevelAhead level) (he : c.AgreesAt c' level) :
    c'.LevelAhead level :=
  fun r hr hl => h r ((he r hl).mp hr) hl

theorem agreesAt_map {f : ApprovalRecord → ApprovalRecord} {level l : Int}
    (hlevel : ∀ r ∈ c, (f r).level = r.level) (hf : ∀ r ∈ c, r.level ≠ level → f r = r)
    (hl : l ≠ level) : AgreesAt c (c.map f) l := by
  intro r hr
  constructor
  · intro hm
    obtain ⟨s, hs, rfl⟩ := List.mem_map.mp hm
    have hsl : s.level ≠ level := by
      rw [← hlevel s hs, hr]
      exact hl
    rw [hf s hs hsl]
    exact hs
  · intro hm
    exact List.mem_map.mpr ⟨r, hm, hf r hm (by rw [hr]; exact hl)⟩

theorem agreesAt_map_one (h : c.Distinct) {t : ApprovalRecord} (ht : t ∈ c)
    {f : ApprovalRecord → ApprovalRecord} (hf : (f t).level = t.level) {l : Int}
    (hl : l ≠ t.level) : AgreesAt c (c.map fun r => if r.id = t.id then f r else r) l := by
  intro r hr
  rw [mem_map_one h ht]
  constructor
  · rintro (⟨hm, -⟩ | rfl)
    · exact hm
    · exact absurd (hf.symm.trans hr).symm hl
  · intro hm
    exact .inl ⟨hm, fun he => hl (by rw [← hr, he])⟩

/-- Every place of a level is still held when one record gives way to another in its place. -/
theorem held_of_replaced {level : Int} {t t' : ApprovalRecord} (ht : t ∈ c) (ht' : t' ∈ c')
    (hlevel : t'.level = t.level) (hposition : t'.position = t.position)
    (hstatus : t'.status ≠ .delegated) (hkept : ∀ r ∈ c, r ≠ t → r ∈ c')
    (hback : ∀ r ∈ c', r ∈ c ∨ r.level = t.level ∧ r.position = t.position)
    (hheld : ∀ r ∈ c, r.level = level →
      ∃ a ∈ c, a.level = level ∧ a.position = r.position ∧ a.status ≠ .delegated) :
    ∀ r ∈ c', r.level = level →
      ∃ a ∈ c', a.level = level ∧ a.position = r.position ∧ a.status ≠ .delegated := by
  intro r hr hl
  obtain ⟨s, hs, hsl, hsp⟩ : ∃ s ∈ c, s.level = level ∧ s.position = r.position := by
    rcases hback r hr with hrc | ⟨hrl, hrp⟩
    · exact ⟨r, hrc, hl, rfl⟩
    · exact ⟨t, ht, hrl.symm.trans hl, hrp.symm⟩
  obtain ⟨a, ha, hal, hap, had⟩ := hheld s hs hsl
  by_cases hat : a = t
  · subst hat
    exact ⟨t', ht', hlevel.trans hal, (hposition.trans hap).trans hsp, hstatus⟩
  · exact ⟨a, hkept a ha hat, hal, hap.trans hsp, had⟩

/-- Records that stay for the same decision, and stay handed over, leave a chain sound. -/
theorem Sound.map (h : c.Sound config round) {f : ApprovalRecord → ApprovalRecord}
    (hseat : ∀ r : ApprovalRecord, r.SameSeat (f r))
    (hkept : ∀ r ∈ c, r.status = .delegated → (f r).status = .delegated)
    (hover : ∀ r ∈ c, (f r).status = .delegated → r.kind = .anyOf ∨ (f r).delegatedTo.isSome = true) :
    Sound config round (c.map f) where
  distinct := h.distinct.map fun r => (hseat r).id
  inRound r hr := by
    obtain ⟨s, hs, rfl⟩ := List.mem_map.mp hr
    rw [(hseat s).round]
    exact h.inRound s hs
  kind r hr := by
    obtain ⟨s, hs, rfl⟩ := List.mem_map.mp hr
    rw [(hseat s).level, (hseat s).kind]
    exact h.kind s hs
  oneHolder a ha b hb hl hp hla hlb := by
    obtain ⟨s, hs, rfl⟩ := List.mem_map.mp ha
    obtain ⟨t, ht, rfl⟩ := List.mem_map.mp hb
    rw [(hseat s).level, (hseat t).level] at hl
    rw [(hseat s).position, (hseat t).position] at hp
    rw [h.oneHolder s hs t ht hl hp (fun e => hla (hkept s hs e)) (fun e => hlb (hkept t ht e))]
  handedOver r hr hd := by
    obtain ⟨s, hs, rfl⟩ := List.mem_map.mp hr
    rw [(hseat s).kind]
    exact hover s hs hd

end Chain
end Formwork
