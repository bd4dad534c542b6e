import Formwork.Proofs.Approval.Turn
/-!
# How long records wait

A record says when its approver was asked and how long it may wait. Whatever moves a chain, a record
keeps its limit and a new one has that of the record that it replaces; and whoever is asked is asked
at the time of the move. So all limits come from the configuration of the chain, and all times are
instants at which something happened.
-/
namespace Formwork

open Calendar

/-- An escalation that decides hands its record over or rejects it, at the time of the move. -/
theorem Escalation.verdict?_eq_some {e : Escalation} {time : Stamp} {v : Verdict}
    (h : e.verdict? time = some v) : v.time = time ∧
      ((e.policy = .delegate ∧ v.decision = .delegate ∧ v.delegate = e.delegate) ∨
        (e.policy = .autoReject ∧ v.decision = .reject)) := by
  unfold verdict? at h
  split at h
  · cases h
  · rename_i hpolicy
    simp only [Option.some.injEq] at h
    rw [← h]
    exact ⟨rfl, .inl ⟨hpolicy, rfl, rfl⟩⟩
  · rename_i hpolicy
    simp only [Option.some.injEq] at h
    rw [← h]
    exact ⟨rfl, .inr ⟨hpolicy, rfl⟩⟩

namespace ApprovalRecord

variable {time : Stamp} {r s : ApprovalRecord}

/-- A record waits as another one does, or from a given time on. -/
structure WaitsLike (time : Stamp) (r s : ApprovalRecord) : Prop where
  limit : s.escalateAfter = r.escalateAfter
  since : s.requestedAt = r.requestedAt ∨ s.requestedAt = some time

theorem WaitsLike.refl (time : Stamp) (r : ApprovalRecord) : r.WaitsLike time r := ⟨rfl, .inl rfl⟩

theorem WaitsLike.trans {s' : ApprovalRecord} (h : r.WaitsLike time s) (h' : s.WaitsLike time s') :
    r.WaitsLike time s' where
  limit := h'.limit.trans h.limit
  since := by
    rcases h'.since with hsame | hasked
    · rw [hsame]
      exact h.since
    · exact .inr hasked

end ApprovalRecord

namespace Chain

variable {time : Stamp} {c c' : Chain} {t : ApprovalRecord} {v : Verdict} {o : ApprovalOutcome}

/-- Every record of a later chain waits as one of the chain does, or from a given time on. -/
def WaitsLike (time : Stamp) (c c' : Chain) : Prop := ∀ s ∈ c', ∃ r ∈ c, r.WaitsLike time s

theorem WaitsLike.refl (time : Stamp) (c : Chain) : c.WaitsLike time c :=
  fun r hr => ⟨r, hr, .refl time r⟩

theorem WaitsLike.trans {c'' : Chain} (h : c.WaitsLike time c') (h' : c'.WaitsLike time c'') :
    c.WaitsLike time c'' := by
  intro s'' hs''
  obtain ⟨s, hs, hlike'⟩ := h' s'' hs''
  obtain ⟨r, hr, hlike⟩ := h s hs
  exact ⟨r, hr, hlike.trans hlike'⟩

theorem WaitsLike.map {f : ApprovalRecord → ApprovalRecord}
    (hf : ∀ r : ApprovalRecord, r.WaitsLike time (f r)) : c.WaitsLike time (c.map f) := by
  intro s hs
  obtain ⟨r, hr, rfl⟩ := List.mem_map.mp hs
  exact ⟨r, hr, hf r⟩

/-- A record is one of the chain, or stands in the place of one that passed the test. -/
theorem mem_replaceFirst {test : ApprovalRecord → Bool} {f : ApprovalRecord → Chain}
    {s : ApprovalRecord} (h : s ∈ c.replaceFirst test f) :
    s ∈ c ∨ ∃ r ∈ c, test r = true ∧ s ∈ f r := by
  induction c with
  | nil => exact .inl h
  | cons r rest ih =>
    unfold replaceFirst at h
    split at h
    · rename_i htest
      rcases List.mem_append.mp h with hs | hs
      · exact .inr ⟨r, List.mem_cons_self, htest, hs⟩
      · exact .inl (List.mem_cons_of_mem _ hs)
    · rcases List.mem_cons.mp h with rfl | hs
      · exact .inl List.mem_cons_self
      · rcases ih hs with hkept | ⟨q, hq, htest, hnew⟩
        · exact .inl (List.mem_cons_of_mem _ hkept)
        · exact .inr ⟨q, List.mem_cons_of_mem _ hq, htest, hnew⟩

theorem WaitsLike.replaceFirst {test : ApprovalRecord → Bool} {f : ApprovalRecord → Chain}
    (hf : ∀ r, ∀ s ∈ f r, r.WaitsLike time s) : c.WaitsLike time (c.replaceFirst test f) := by
  intro s hs
  rcases mem_replaceFirst hs with hkept | ⟨r, hr, -, hnew⟩
  · exact ⟨s, hkept, .refl time s⟩
  · exact ⟨r, hr, hf r s hnew⟩

/-! ## The parts of a move -/

theorem waitsLike_write (c : Chain) (id : String) (status : ApprovalStatus) (v : Verdict) :
    c.WaitsLike time (c.write id status v) := by
  apply WaitsLike.replaceFirst
  intro r s hs
  rw [List.mem_singleton.mp hs]
  exact ⟨rfl, .inl rfl⟩

theorem waitsLike_openFirst (test : ApprovalRecord → Bool) (time : Stamp) (c : Chain) :
    c.WaitsLike time (c.openFirst test time) := by
  unfold openFirst
  split
  · exact .refl time c
  · apply WaitsLike.replaceFirst
    intro r s hs
    rw [List.mem_singleton.mp hs]
    exact ⟨rfl, .inr rfl⟩

theorem waitsLike_openAll (test : ApprovalRecord → Bool) (time : Stamp) (c : Chain) :
    c.WaitsLike time (c.openAll test time) := by
  apply WaitsLike.map
  intro r
  split
  · exact ⟨rfl, .inr rfl⟩
  · exact .refl time r

theorem waitsLike_settle (c : Chain) (target : ApprovalRecord) :
    c.WaitsLike time (c.settle target time) := by
  apply WaitsLike.map
  intro r
  split
  · exact ⟨rfl, .inl rfl⟩
  · exact .refl time r

theorem waitsLike_advance (c : Chain) (target : ApprovalRecord) :
    c.WaitsLike time (c.advance target time).1 := by
  unfold advance
  split
  · exact waitsLike_settle c target
  · dsimp only
    split
    · exact waitsLike_openFirst _ time c
    · exact .refl time c
  · exact .refl time c

theorem waitsLike_openNext? {target : ApprovalRecord} (h : c.openNext? target time = some c') :
    c.WaitsLike time c' := by
  unfold openNext? at h
  dsimp only at h
  split at h
  · cases h
  · simp only [Option.some.injEq] at h
    rw [← h]
    split
    · exact waitsLike_openFirst _ time c
    · exact waitsLike_openAll _ time c

theorem waitsLike_markEscalated (c : Chain) (id : String) :
    c.WaitsLike time (c.markEscalated id) := by
  apply WaitsLike.map
  intro r
  split
  · exact ⟨rfl, .inl rfl⟩
  · exact .refl time r

/-! ## Moves -/

theorem waitsLike_approve (c : Chain) (target : ApprovalRecord) (v : Verdict) :
    c.WaitsLike v.time (c.approve target v).chain := by
  have hadvanced : c.WaitsLike v.time
      ((c.write target.id .approved v).advance target v.time).1 :=
    (waitsLike_write c target.id .approved v).trans (waitsLike_advance _ target)
  unfold approve
  dsimp only
  split
  · split
    · rename_i hnext
      exact hadvanced.trans (waitsLike_openNext? hnext)
    · exact hadvanced
  · exact hadvanced

theorem waitsLike_reject (c : Chain) (target : ApprovalRecord) (v : Verdict) :
    c.WaitsLike time (c.reject target v).chain := by
  rw [reject_eq_map]
  apply (waitsLike_write c target.id .rejected v).trans
  apply WaitsLike.map
  intro r
  unfold ApprovalRecord.dropped
  split
  · exact ⟨rfl, .inl rfl⟩
  · exact .refl time r

theorem waitsLike_handOver (c : Chain) (target : ApprovalRecord) (id delegate : String)
    (v : Verdict) : c.WaitsLike v.time (c.handOver target id delegate v).chain := by
  apply WaitsLike.replaceFirst
  intro r s hs
  simp only [List.mem_cons, List.not_mem_nil, or_false] at hs
  rcases hs with rfl | rfl
  · exact ⟨rfl, .inl rfl⟩
  · exact ⟨rfl, .inr rfl⟩

theorem Decides.waitsLike (h : c.Decides t v o) : c.WaitsLike v.time o.chain := by
  cases h with
  | approve _ => exact waitsLike_approve c t v
  | reject _ => exact waitsLike_reject c t v
  | handOver id _ given => exact waitsLike_handOver c t id _ v

theorem waitsLike_decide {id : String} {ids left : Ids} (h : (c.decide id v).Returns ids o left) :
    c.WaitsLike v.time o.chain := by
  obtain ⟨t, -, hdecides⟩ := decide_returns h
  exact hdecides.waitsLike

theorem waitsLike_escalate {status : Status} {e : Escalation} {ids left : Ids}
    (h : (c.escalate status e time).Returns ids o left) : c.WaitsLike time o.chain := by
  have hmarked : c.WaitsLike time (c.markEscalated e.record) :=
    waitsLike_markEscalated c e.record
  unfold escalate at h
  dsimp only at h
  split at h
  · rename_i v hv
    have htime : v.time = time := (Escalation.verdict?_eq_some hv).1
    have hdecided := waitsLike_decide h
    rw [htime] at hdecided
    exact hmarked.trans hdecided
  · simp only [Work.pure_returns_iff] at h
    rw [← h.1]
    exact hmarked

end Chain

/-! ## Limits and times that make sense -/

/-- A record may wait for some time at least, if its wait is limited, and was asked at an
instant. -/
structure ApprovalRecord.Timely (r : ApprovalRecord) : Prop where
  limit : ∀ limit, r.escalateAfter = some limit → 0 < limit
  since : ∀ since, r.requestedAt = some since → ∃ i, since = .ofInstant i

/-- A chain whose records are timely. -/
def Chain.Timely (c : Chain) : Prop := ∀ r ∈ c, r.Timely

theorem Chain.WaitsLike.timely {c c' : Chain} {now : Instant} (h : c.WaitsLike (.ofInstant now) c')
    (timely : c.Timely) : c'.Timely := by
  intro s hs
  obtain ⟨r, hr, hlike⟩ := h s hs
  constructor
  case limit =>
    intro limit hlimit
    rw [hlike.limit] at hlimit
    exact (timely r hr).limit limit hlimit
  case since =>
    intro since hsince
    rcases hlike.since with hsame | hasked
    · rw [hsame] at hsince
      exact (timely r hr).since since hsince
    · rw [hasked, Option.some.injEq] at hsince
      exact ⟨now, hsince.symm⟩

/-! ## New rounds -/

/-- A level lets its approvers wait for some time at least, if their wait is limited. -/
def ApprovalLevel.Patient (level : ApprovalLevel) : Prop :=
  ∀ limit, level.escalateAfter = some limit → 0 < limit

def ApprovalConfig.Patient (config : ApprovalConfig) : Prop :=
  ∀ level ∈ config.levels, level.Patient

/-- A record of a new round has the limit of a level, and is asked when the round starts or not
yet. -/
structure ApprovalRecord.LaidOut (levels : List ApprovalLevel) (time : Stamp)
    (r : ApprovalRecord) : Prop where
  limit : ∃ level ∈ levels, r.escalateAfter = level.escalateAfter
  asked : (r.status = .pending ∧ r.requestedAt = some time) ∨
    (r.status = .waiting ∧ r.requestedAt = none)

namespace Chain

variable {context : Context} {round index : Int} {ids left : Ids} {c : Chain}

theorem levelRecords_laidOut {level : ApprovalLevel} {reached : Bool} {time : Stamp}
    {position : Int} {approvers : List Approver}
    (h : (levelRecords index level round reached time position approvers).Returns ids c left) :
    ∀ r ∈ c, r.LaidOut [level] time := by
  induction approvers generalizing position ids left c with
  | nil =>
    simp only [levelRecords, Work.pure_returns_iff] at h
    rw [← h.1]
    exact fun r hr => by cases hr
  | cons a rest ih =>
    simp only [levelRecords, Work.bind_returns_iff, Work.pure_returns_iff] at h
    obtain ⟨id, _, -, records, _, hrest, rfl, -⟩ := h
    intro r hr
    rcases List.mem_cons.mp hr with rfl | hr
    · refine ⟨⟨level, List.mem_singleton_self level, rfl⟩, ?_⟩
      dsimp only
      split
      · exact .inl ⟨rfl, rfl⟩
      · exact .inr ⟨rfl, rfl⟩
    · exact ih hrest r hr

theorem levelsFrom_laidOut {started : Bool} {levels : List ApprovalLevel}
    (h : (levelsFrom context round index started levels).Returns ids c left) :
    ∀ r ∈ c, r.LaidOut levels (.ofInstant context.now) := by
  induction levels generalizing index started ids left c with
  | nil =>
    simp only [levelsFrom, Work.pure_returns_iff] at h
    rw [← h.1]
    exact fun r hr => by cases hr
  | cons level rest ih =>
    simp only [levelsFrom, Work.bind_returns_iff, Work.pure_returns_iff] at h
    obtain ⟨approvers, _, -, records, _, hrecords, later, _, hlater, rfl, -⟩ := h
    intro r hr
    rcases List.mem_append.mp hr with hr | hr
    · obtain ⟨⟨level', hlevel', hlimit⟩, hasked⟩ := levelRecords_laidOut hrecords r hr
      rw [List.mem_singleton.mp hlevel'] at hlimit
      exact ⟨⟨level, List.mem_cons_self, hlimit⟩, hasked⟩
    · obtain ⟨⟨level', hlevel', hlimit⟩, hasked⟩ := ih hlater r hr
      exact ⟨⟨level', List.mem_cons_of_mem _ hlevel', hlimit⟩, hasked⟩

end Chain

theorem ApprovalConfig.startChain_laidOut {config : ApprovalConfig} {context : Context}
    {round : Int} {ids left : Ids} {records : Chain}
    (h : (config.startChain context round).Returns ids records left) :
    ∀ r ∈ records, r.LaidOut config.levels (.ofInstant context.now) := by
  unfold startChain at h
  rw [Work.bind_returns_iff] at h
  obtain ⟨required, _, -, h⟩ := h
  split at h
  · exact Chain.levelsFrom_laidOut h
  · simp only [Work.pure_returns_iff] at h
    rw [← h.1]
    exact fun r hr => by cases hr

theorem ApprovalRecord.LaidOut.timely {config : ApprovalConfig} {now : Instant} {r : ApprovalRecord}
    (h : r.LaidOut config.levels (.ofInstant now)) (patient : config.Patient) : r.Timely := by
  obtain ⟨⟨level, hlevel, hlimit⟩, hasked⟩ := h
  constructor
  case limit =>
    intro limit hsome
    rw [hlimit] at hsome
    exact patient level hlevel limit hsome
  case since =>
    intro since hsome
    rcases hasked with ⟨-, hnow⟩ | ⟨-, hnever⟩
    · rw [hnow, Option.some.injEq] at hsome
      exact ⟨now, hsome.symm⟩
    · rw [hnever] at hsome
      cases hsome

end Formwork
