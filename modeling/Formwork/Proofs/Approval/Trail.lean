import Formwork.Proofs.Approval.Rounds
import Formwork.Proofs.Approval.Start
/-!
# The trail of all rounds

The chain of a submission holds the records of all its rounds. Only the last round can be open:
while it awaits decisions, it stands at a level of its own and the earlier rounds are closed; once
it has ended, the whole chain is closed. The largest round among the records says how many were
started.
-/
namespace Formwork.Chain

open Calendar

variable {round : Int} {c : Chain} {t : ApprovalRecord} {move : Move} {o : ApprovalOutcome}

/-- So many rounds were started: the last of them has records, and no record is of a later one. -/
structure Counted (c : Chain) (round : Int) : Prop where
  upTo : ∀ r ∈ c, r.round ≤ round
  last : (c = [] ∧ round = 0) ∨ ∃ r ∈ c, r.round = round

/-- Nobody is asked, and nobody will be. -/
def Closed (c : Chain) : Prop := ∀ r ∈ c, r.status.isOpen = false

/-- The last round awaits decisions at one of its levels; the rounds before it are closed. -/
def AwaitsIn (c : Chain) (round : Int) : Prop :=
  ∃ (earlier current : Chain) (config : ApprovalConfig) (level : Int),
    c = earlier ++ current ∧ (∀ r ∈ earlier, r.round < round) ∧ earlier.Closed ∧
      current.StandsAt config round level

theorem Closed.not_pending (h : c.Closed) {r : ApprovalRecord} (hr : r ∈ c) :
    r.status ≠ .pending := by
  intro hp
  have hclosed := h r hr
  simp [hp, ApprovalStatus.isOpen] at hclosed

theorem StandsAt.awaitsIn {config : ApprovalConfig} {level : Int}
    (h : c.StandsAt config round level) : c.AwaitsIn round :=
  ⟨[], c, config, level, rfl, fun _ hr => absurd hr List.not_mem_nil,
    fun _ hr => absurd hr List.not_mem_nil, h⟩

/-! ## The count of rounds -/

theorem Counted.eq_max (h : c.Counted round) : round = (c.map (·.round)).max?.getD 0 := by
  rcases h.last with ⟨rfl, rfl⟩ | ⟨r, hr, hround⟩
  · rfl
  · have hmax : (c.map (·.round)).max? = some round := by
      rw [List.max?_eq_some_iff]
      refine ⟨List.mem_map.mpr ⟨r, hr, hround⟩, ?_⟩
      intro n hn
      obtain ⟨s, hs, rfl⟩ := List.mem_map.mp hn
      exact h.upTo s hs
    rw [hmax, Option.getD_some]

/-- The records of the round that was started last are those of the largest round. -/
theorem Counted.ofRound_eq_latest (h : c.Counted round) : c.ofRound round = c.latest := by
  rcases h.last with ⟨rfl, -⟩ | ⟨r, hr, hround⟩
  · rfl
  · have hmax := h.eq_max
    unfold latest
    cases hm : (c.map (·.round)).max? with
    | none =>
      have hnil : c = [] := by simpa using hm
      simp [hnil] at hr
    | some last =>
      rw [hm, Option.getD_some] at hmax
      rw [hmax]

theorem Counted.map (h : c.Counted round) {f : ApprovalRecord → ApprovalRecord}
    (hf : ∀ r, (f r).round = r.round) : Counted (c.map f) round where
  upTo r hr := by
    obtain ⟨s, hs, rfl⟩ := List.mem_map.mp hr
    rw [hf s]
    exact h.upTo s hs
  last := by
    rcases h.last with ⟨rfl, hround⟩ | ⟨r, hr, hround⟩
    · exact .inl ⟨rfl, hround⟩
    · exact .inr ⟨f r, List.mem_map_of_mem hr, (hf r).trans hround⟩

theorem Counted.of_append {earlier current : Chain} (hearlier : ∀ r ∈ earlier, r.round < round)
    (hcurrent : ∀ r ∈ current, r.round = round) (hne : current ≠ []) :
    (earlier ++ current).Counted round where
  upTo r hr := by
    rcases List.mem_append.mp hr with hr | hr
    · exact Int.le_of_lt (hearlier r hr)
    · exact Int.le_of_eq (hcurrent r hr)
  last := by
    obtain ⟨r, hr⟩ := List.exists_mem_of_ne_nil current hne
    exact .inr ⟨r, List.mem_append_right _ hr, hcurrent r hr⟩

theorem AwaitsIn.counted (h : c.AwaitsIn round) : c.Counted round := by
  obtain ⟨earlier, current, config, level, rfl, hearlier, -, hstands⟩ := h
  obtain ⟨r, hr, -⟩ := hstands.here.reached
  exact .of_append hearlier hstands.sound.inRound (List.ne_nil_of_mem hr)

theorem AwaitsIn.round_of_open (h : c.AwaitsIn round) {r : ApprovalRecord} (hr : r ∈ c)
    (hopen : r.status.isOpen = true) : r.round = round := by
  obtain ⟨earlier, current, config, level, rfl, -, hclosed, hstands⟩ := h
  rcases List.mem_append.mp hr with hr | hr
  · rw [hclosed r hr] at hopen
    cases hopen
  · exact hstands.sound.inRound r hr

theorem AwaitsIn.one_level (h : c.AwaitsIn round) {r s : ApprovalRecord} (hr : r ∈ c) (hs : s ∈ c)
    (hrp : r.status = .pending) (hsp : s.status = .pending) : r.level = s.level := by
  obtain ⟨earlier, current, config, level, rfl, -, hclosed, hstands⟩ := h
  have hcurrent : ∀ a ∈ earlier ++ current, a.status = .pending → a ∈ current := by
    intro a ha hap
    rcases List.mem_append.mp ha with ha | ha
    · exact absurd hap (hclosed.not_pending ha)
    · exact ha
  rw [hstands.level_of_pending (hcurrent r hr hrp) hrp,
    hstands.level_of_pending (hcurrent s hs hsp) hsp]

theorem AwaitsIn.waiting_above (h : c.AwaitsIn round) (ht : t ∈ c) (hp : t.status = .pending)
    {r : ApprovalRecord} (hr : r ∈ c) (hround : r.round = round) (hlt : t.level < r.level) :
    r.status = .waiting := by
  have htround : t.round = round := h.round_of_open ht (by simp [hp, ApprovalStatus.isOpen])
  obtain ⟨earlier, current, config, level, rfl, hearlier, -, hstands⟩ := h
  have hcurrent : ∀ a ∈ earlier ++ current, a.round = round → a ∈ current := by
    intro a ha haround
    rcases List.mem_append.mp ha with ha | ha
    · have hearly := hearlier a ha
      omega
    · exact ha
  rw [hstands.level_of_pending (hcurrent t ht htround) hp] at hlt
  exact (hstands.above r.level hlt r (hcurrent r hr hround) rfl).1

/-! ## Rounds that start and end -/

theorem Phase.closed {config : ApprovalConfig} {level : Int} {status : Status}
    (h : Phase config round c level status) (ended : status ≠ .pendingApproval) :
    status.isFinal = true ∧ c.Closed := by
  cases h with
  | awaiting _ => exact absurd rfl ended
  | completed _ cleared =>
    refine ⟨rfl, ?_⟩
    intro r hr
    rcases (cleared r.level).settled r hr rfl with hs | hs <;> simp [hs, ApprovalStatus.isOpen]
  | rejected rejected => exact ⟨rfl, rejected.closed⟩

theorem Counted.awaitsIn (h : c.Counted round) (closed : c.Closed) {config : ApprovalConfig}
    {context : Context} {records : Chain} {ids left : Ids}
    (asked : (config.startChain context (round + 1)).Returns ids records left)
    (nonempty : records ≠ []) (fresh : (c ++ records).Distinct) :
    (c ++ records).AwaitsIn (round + 1) := by
  obtain ⟨⟨level, hstands⟩, -⟩ :=
    config.startChain_stands asked nonempty fresh.of_append_right
  refine ⟨c, records, config, level, rfl, ?_, closed, hstands⟩
  intro r hr
  have hle := h.upTo r hr
  omega

theorem closed_append {a b : Chain} (ha : a.Closed) (hb : b.Closed) : (a ++ b).Closed := by
  intro r hr
  rcases List.mem_append.mp hr with hr | hr
  · exact ha r hr
  · exact hb r hr

/-- A move on a chain is one on its last round; the rounds before it stay as they are. -/
theorem Does.onLast (does : c.Does t move o) (h : c.AwaitsIn round) (distinct : c.Distinct)
    (ht : t ∈ c) (hp : t.status = .pending) (fresh : o.chain.Distinct) :
    ∃ (earlier last : Chain) (config : ApprovalConfig) (level : Int), o.chain = earlier ++ last ∧
      (∀ r ∈ earlier, r.round < round) ∧ earlier.Closed ∧ last ≠ [] ∧
      Phase config round last level o.status := by
  have htround : t.round = round := h.round_of_open ht (by simp [hp, ApprovalStatus.isOpen])
  obtain ⟨earlier, current, config, level, rfl, hearlier, hclosed, hstands⟩ := h
  have htcurrent : t ∈ current := by
    rcases List.mem_append.mp ht with ht | ht
    · have hlt := hearlier t ht
      omega
    · exact ht
  have hids : ∀ r ∈ earlier, r.id ≠ t.id := by
    intro r hr hid
    have he := distinct.eq_of_id (List.mem_append_left _ hr) ht hid
    have hlt := hearlier r hr
    rw [he] at hlt
    omega
  have hrounds : ∀ r ∈ earlier, r.round ≠ t.round := by
    intro r hr
    have hlt := hearlier r hr
    omega
  obtain ⟨o', hdoes, hchain, hstatus⟩ := does.of_append hids hrounds
  rw [hchain] at fresh
  obtain ⟨next, -, hphase⟩ := hdoes.phase hstands htcurrent hp fresh.of_append_right
  have hne : o'.chain ≠ [] := hdoes.lasts.within.ne_nil (List.ne_nil_of_mem htcurrent)
  rw [← hstatus] at hphase
  exact ⟨earlier, o'.chain, config, next, hchain, hearlier, hclosed, hne, hphase⟩

theorem ofRound_append {earlier last : Chain} (hearlier : ∀ r ∈ earlier, r.round < round)
    (hlast : ∀ r ∈ last, r.round = round) : (earlier ++ last).ofRound round = last := by
  unfold ofRound
  rw [filter_append_of_none, List.filter_eq_self]
  · intro r hr
    simp [hlast r hr]
  · intro r hr
    have hlt := hearlier r hr
    simp only [beq_eq_false_iff_ne]
    omega

theorem Does.approves (does : c.Does t move o) (completed : o.status = .completed) :
    ∃ request, move = .decision request ∧ request.decision = .approve := by
  cases does with
  | @decision request _ admitted decides =>
    cases decides with
    | approve hv => exact ⟨request, rfl, hv⟩
    | reject _ => cases completed
    | handOver _ _ _ => cases completed
  | escalation other decides =>
    cases decides with
    | approve hv => exact absurd hv other
    | reject _ => cases completed
    | handOver _ _ _ => cases completed
  | notice _ inStatus =>
    rw [inStatus] at completed
    cases completed

theorem status_approve (c : Chain) (t : ApprovalRecord) (v : Verdict) :
    (c.approve t v).status ≠ .rejected := by
  unfold approve
  dsimp only
  split
  · split <;> exact fun h => by cases h
  · exact fun h => by cases h

theorem Decides.rejects {v : Verdict} (decides : c.Decides t v o) (distinct : c.Distinct)
    (ht : t ∈ c) (rejected : o.status = .rejected) :
    ∃ a ∈ o.chain, a.id = t.id ∧ a.status = .rejected := by
  cases decides with
  | approve _ => exact absurd rejected (status_approve c t v)
  | reject _ =>
    refine ⟨t.decideAs .rejected v, ?_, rfl, rfl⟩
    rw [reject_eq_map]
    exact List.mem_map.mpr ⟨_, (mem_write distinct ht).mpr (.inr rfl),
      ApprovalRecord.dropped_of_closed rfl⟩
  | handOver _ _ _ => cases rejected

theorem Does.rejects (does : c.Does t move o) (distinct : c.Distinct) (ht : t ∈ c)
    (rejected : o.status = .rejected) : ∃ a ∈ o.chain, a.id = t.id ∧ a.status = .rejected := by
  cases does with
  | decision _ decides => exact decides.rejects distinct ht rejected
  | escalation _ decides =>
    exact decides.rejects (distinct.mark t.id) (mem_marked distinct ht) rejected
  | notice _ inStatus =>
    rw [inStatus] at rejected
    cases rejected

theorem LevelCleared.some_approved {level : Int} (h : c.LevelCleared level) {r : ApprovalRecord}
    (hr : r ∈ c) (hl : r.level = level) : ∃ a ∈ c, a.level = level ∧ a.status = .approved := by
  by_cases hk : r.kind = .anyOf
  · obtain ⟨a, ha, hal, happroved, -⟩ := h.anyOf r hr hl hk
    exact ⟨a, ha, hal, happroved⟩
  · obtain ⟨a, ha, hal, -, happroved⟩ := h.each r hr hl hk
    exact ⟨a, ha, hal, happroved⟩

/-- The last level of a round, at which somebody was asked, is cleared, and so are the others. -/
structure ClearsRound (c c' : Chain) (round : Int) : Prop where
  last : ∃ t ∈ c, t.round = round ∧ t.status = .pending ∧
    ∀ r ∈ c, r.round = round → r.level ≤ t.level
  cleared : ∀ level, (c'.ofRound round).LevelCleared level

/-- A move clears no level but the one that was asked, so a round is cleared with its last level. -/
theorem Does.clearsRound (does : c.Does t move o) (h : c.AwaitsIn round) (distinct : c.Distinct)
    (ht : t ∈ c) (hp : t.status = .pending)
    (cleared : ∀ level, (o.chain.ofRound round).LevelCleared level) :
    c.ClearsRound o.chain round := by
  have hround : t.round = round := h.round_of_open ht (by simp [hp, ApprovalStatus.isOpen])
  have hkeeps := does.keeps distinct ht hp
  refine ⟨⟨t, ht, hround, hp, ?_⟩, cleared⟩
  intro r hr hrround
  by_contra hlt
  obtain ⟨r', hr', hseat⟩ := hkeeps.seats r hr
  have hin : r' ∈ o.chain.ofRound round := by
    simp [ofRound, hr', hseat.round, hrround]
  obtain ⟨a, ha, hal, happroved⟩ := (cleared r.level).some_approved hin hseat.level
  obtain ⟨hao, haround⟩ := List.mem_filter.mp ha
  rcases hkeeps.approved a hao happroved with hac | ⟨request, -, -, t', ht', hp', -, rfl⟩
  · have hwaits := h.waiting_above ht hp hac (by simpa using haround) (by omega)
    rw [hwaits] at happroved
    cases happroved
  · have hlevel : t'.level = t.level := h.one_level ht' ht hp' hp
    have hsame : t'.level = r.level := hal
    omega

/-- What a move makes of a round that awaits decisions: it awaits others, or an approval cleared its
last level, or the record that was decided is rejected. -/
inductive ComesTo (c : Chain) (round : Int) (t : ApprovalRecord) (move : Move)
    (o : ApprovalOutcome) : Prop
  | goesOn (status : o.status = .pendingApproval) (awaits : o.chain.AwaitsIn round)
  | completed (status : o.status = .completed) (counted : o.chain.Counted round)
      (closed : o.chain.Closed) (cleared : c.ClearsRound o.chain round)
      (approval : ∃ request, move = .decision request ∧ request.decision = .approve)
  | rejected (status : o.status = .rejected) (counted : o.chain.Counted round)
      (closed : o.chain.Closed) (rejection : ∃ a ∈ o.chain, a.id = t.id ∧ a.status = .rejected)

theorem Does.comesTo (does : c.Does t move o) (h : c.AwaitsIn round) (distinct : c.Distinct)
    (ht : t ∈ c) (hp : t.status = .pending) (fresh : o.chain.Distinct) :
    c.ComesTo round t move o := by
  obtain ⟨earlier, last, config, level, hchain, hearlier, hclosed, hne, hphase⟩ :=
    does.onLast h distinct ht hp fresh
  have hcounted : o.chain.Counted round := by
    rw [hchain]
    exact .of_append hearlier hphase.sound.inRound hne
  have hended : o.status ≠ .pendingApproval → o.chain.Closed := by
    intro hstatus
    rw [hchain]
    exact closed_append hclosed (hphase.closed hstatus).2
  cases hstatus : o.status with
  | pendingApproval =>
    rw [hstatus] at hphase
    exact .goesOn hstatus ⟨earlier, last, config, level, hchain, hearlier, hclosed, hphase.stands⟩
  | completed =>
    have hcleared : ∀ l, (o.chain.ofRound round).LevelCleared l := by
      rw [hchain, ofRound_append hearlier hphase.sound.inRound]
      rw [hstatus] at hphase
      cases hphase with
      | completed _ cleared => exact cleared
    exact .completed hstatus hcounted (hended (by simp [hstatus]))
      (does.clearsRound h distinct ht hp hcleared) (does.approves hstatus)
  | rejected =>
    exact .rejected hstatus hcounted (hended (by simp [hstatus])) (does.rejects distinct ht hstatus)
  | _ =>
    rw [hstatus] at hphase
    cases hphase

/-! ## Findings -/

theorem escalations_sublist {settings : Settings} {now : Stamp} {due : List Escalation}
    (found : c.escalations settings now = .ok due) :
    (due.map (·.record)).Sublist (c.map (·.id)) := by
  induction c generalizing due with
  | nil =>
    simp only [escalations, Except.ok.injEq] at found
    simp [← found]
  | cons r rest ih =>
    simp only [escalations, Work.except_bind_eq_ok_iff] at found
    obtain ⟨one, hone, later, hlater, hdue⟩ := found
    simp only [pure, Except.pure, Except.ok.injEq] at hdue
    rw [← hdue, List.map_append, List.map_cons, ← List.singleton_append]
    apply List.Sublist.append _ (ih hlater)
    cases one with
    | none => simp
    | some e => simp [(ApprovalRecord.escalation?_eq_some hone).1]

/-- An escalation that does not end the round leaves the other records as they are. -/
theorem Does.keeps_others {e : Escalation} (does : c.Does t (.escalation e) o)
    (goesOn : o.status = .pendingApproval) (distinct : c.Distinct) (ht : t ∈ c)
    {r : ApprovalRecord} (hr : r ∈ c) (hne : r ≠ t) : r ∈ o.chain := by
  have hid : r.id ≠ t.id := fun he => hne (distinct.eq_of_id hr ht he)
  have hmarked : r ∈ c.markEscalated t.id := by
    rw [markEscalated_eq_map]
    exact List.mem_map.mpr ⟨r, hr, if_neg hid⟩
  cases does with
  | escalation other decides =>
    cases decides with
    | approve hv => exact absurd hv other
    | reject _ => cases goesOn
    | handOver id _ given =>
      rw [mem_handOver (distinct.mark t.id) (mem_marked distinct ht)]
      exact .inl ⟨hmarked, fun he => hid (by rw [he]; rfl)⟩
  | notice inChain _ =>
    rw [inChain]
    exact hmarked

end Formwork.Chain
