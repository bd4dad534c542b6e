import Formwork.Proofs.Approval.Standing
/-!
# The start of a chain

A chain is laid out level by level, under indices that count the levels of its configuration, and
place by place within a level. The first level that has approvers is open as its kind asks; all
others wait.
-/
namespace Formwork

open Document Calendar

/-- Nobody has decided on a record, which is open if its level is reached and its kind opens it. -/
structure ApprovalRecord.Untouched (r : ApprovalRecord) (reached : Bool) : Prop where
  status : r.status =
    if reached && (r.kind != .sequential || r.position == 0) then .pending else .waiting
  requestedAt : r.status = .waiting → r.requestedAt = none
  decidedAt : r.decidedAt = none

theorem ApprovalRecord.Untouched.waiting {r : ApprovalRecord} (h : r.Untouched false) :
    r.status = .waiting := by
  simpa using h.status

theorem ApprovalRecord.Untouched.undecided {r : ApprovalRecord} {reached : Bool}
    (h : r.Untouched reached) : r.status = .pending ∨ r.status = .waiting := by
  rw [h.status]
  split
  · exact .inl rfl
  · exact .inr rfl

namespace Chain

variable {config : ApprovalConfig} {context : Context} {round : Int}

/-- The records of a level, from a position on. -/
structure LaidAt (index : Int) (kind : LevelKind) (round : Int) (reached : Bool) (position : Int)
    (c : Chain) : Prop where
  level : ∀ r ∈ c, r.level = index
  kind : ∀ r ∈ c, r.kind = kind
  inRound : ∀ r ∈ c, r.round = round
  untouched : ∀ r ∈ c, r.Untouched reached
  later : ∀ r ∈ c, position ≤ r.position
  alone : ∀ a ∈ c, ∀ b ∈ c, a.position = b.position → a = b

theorem LaidAt.cons {index position : Int} {kind : LevelKind} {reached : Bool} {c : Chain}
    (h : LaidAt index kind round reached (position + 1) c) {r : ApprovalRecord}
    (hlevel : r.level = index) (hkind : r.kind = kind) (hround : r.round = round)
    (hposition : r.position = position) (huntouched : r.Untouched reached) :
    LaidAt index kind round reached position (r :: c) := by
  have hbehind : ∀ s ∈ c, position < s.position := by
    intro s hs
    have hle := h.later s hs
    omega
  constructor
  case level => simpa [hlevel] using h.level
  case kind => simpa [hkind] using h.kind
  case inRound => simpa [hround] using h.inRound
  case untouched => simpa [huntouched] using h.untouched
  case later =>
    intro s hs
    rcases List.mem_cons.mp hs with rfl | hs
    · exact Int.le_of_eq hposition.symm
    · exact Int.le_of_lt (hbehind s hs)
  case alone =>
    intro a ha b hb he
    rcases List.mem_cons.mp ha with rfl | hac
    · rcases List.mem_cons.mp hb with rfl | hbc
      · rfl
      · have hlt := hbehind b hbc
        omega
    · rcases List.mem_cons.mp hb with rfl | hbc
      · have hlt := hbehind a hac
        omega
      · exact h.alone a hac b hbc he

theorem levelRecords_returns {index position : Int} {level : ApprovalLevel} {reached : Bool}
    {time : Stamp} {approvers : List Approver} {ids left : Ids} {c : Chain}
    (h : (levelRecords index level round reached time position approvers).Returns ids c left) :
    LaidAt index level.kind round reached position c ∧
      if approvers.isEmpty then c = [] else ∃ r ∈ c, r.position = position := by
  induction approvers generalizing position ids left c with
  | nil =>
    simp only [levelRecords, Work.pure_returns_iff] at h
    rw [← h.1]
    exact ⟨⟨by simp, by simp, by simp, by simp, by simp, by simp⟩, rfl⟩
  | cons a rest ih =>
    simp only [levelRecords, Work.bind_returns_iff, Work.pure_returns_iff] at h
    obtain ⟨id, _, -, records, _, hrest, rfl, -⟩ := h
    refine ⟨(ih hrest).1.cons rfl rfl rfl rfl ?_, _, List.mem_cons_self, rfl⟩
    constructor
    case status => rfl
    case requestedAt =>
      intro hw
      dsimp only at hw ⊢
      split at hw
      · cases hw
      · rename_i hclosed
        rw [if_neg hclosed]
    case decidedAt => rfl

/-- The records of the levels from an index on; if none was reached before, the first of them is. -/
structure LaidFrom (config : ApprovalConfig) (round : Int) (index : Nat) (started : Bool)
    (c : Chain) : Prop where
  later : ∀ r ∈ c, (index : Int) ≤ r.level
  kind : ∀ r ∈ c, config.kindAt? r.level = some r.kind
  inRound : ∀ r ∈ c, r.round = round
  place : ∀ r ∈ c, 0 ≤ r.position
  alone : ∀ a ∈ c, ∀ b ∈ c, a.level = b.level → a.position = b.position → a = b
  behind : started = true → ∀ r ∈ c, r.Untouched false
  first : started = false → c ≠ [] → ∃ a ∈ c, a.position = 0 ∧
    ∀ r ∈ c, a.level ≤ r.level ∧ r.Untouched (r.level == a.level)

theorem kindAt?_of_drop {index : Nat} {level : ApprovalLevel} {rest : List ApprovalLevel}
    (hdrop : config.levels.drop index = level :: rest) :
    config.kindAt? index = some level.kind ∧ config.levels.drop (index + 1) = rest := by
  have hlevel : config.levels[index]? = some level := by
    have hhead := congrArg List.head? hdrop
    simpa [List.head?_drop] using hhead
  constructor
  · simp [ApprovalConfig.kindAt?, hlevel]
  · rw [← List.tail_drop, hdrop, List.tail_cons]

/-- A level without approvers leaves it to the levels above it to be the first one. -/
theorem LaidFrom.cons {index : Nat} {kind : LevelKind} {started nobody : Bool}
    {records later : Chain} (hkind : config.kindAt? index = some kind)
    (hlaid : LaidAt index kind round (!started) 0 records)
    (hsome : if nobody then records = [] else ∃ r ∈ records, r.position = 0)
    (hlater : LaidFrom config round (index + 1) (started || !nobody) later) :
    LaidFrom config round index started (records ++ later) := by
  have habove : ∀ r ∈ later, (index : Int) < r.level := by
    intro r hr
    have hle := hlater.later r hr
    omega
  constructor
  case later =>
    intro r hr
    rcases List.mem_append.mp hr with hr | hr
    · exact Int.le_of_eq (hlaid.level r hr).symm
    · exact Int.le_of_lt (habove r hr)
  case kind =>
    intro r hr
    rcases List.mem_append.mp hr with hr | hr
    · rw [hlaid.level r hr, hlaid.kind r hr]
      exact hkind
    · exact hlater.kind r hr
  case inRound =>
    intro r hr
    rcases List.mem_append.mp hr with hr | hr
    · exact hlaid.inRound r hr
    · exact hlater.inRound r hr
  case place =>
    intro r hr
    rcases List.mem_append.mp hr with hr | hr
    · exact hlaid.later r hr
    · exact hlater.place r hr
  case alone =>
    intro a ha b hb hl hp
    rcases List.mem_append.mp ha with ha | ha
    · rcases List.mem_append.mp hb with hb | hb
      · exact hlaid.alone a ha b hb hp
      · have hlt := habove b hb
        rw [hlaid.level a ha] at hl
        omega
    · rcases List.mem_append.mp hb with hb | hb
      · have hlt := habove a ha
        rw [hlaid.level b hb] at hl
        omega
      · exact hlater.alone a ha b hb hl hp
  case behind =>
    intro hstarted r hr
    rcases List.mem_append.mp hr with hr | hr
    · simpa [hstarted] using hlaid.untouched r hr
    · exact hlater.behind (by simp [hstarted]) r hr
  case first =>
    intro hstarted hne
    cases nobody with
    | true =>
      have hnil : records = [] := by simpa using hsome
      rw [hnil, List.nil_append] at hne ⊢
      exact hlater.first (by simp [hstarted]) hne
    | false =>
      obtain ⟨a, ha, hzero⟩ : ∃ r ∈ records, r.position = 0 := by simpa using hsome
      refine ⟨a, List.mem_append_left _ ha, hzero, ?_⟩
      intro r hr
      rw [hlaid.level a ha]
      rcases List.mem_append.mp hr with hr | hr
      · have hopen := hlaid.untouched r hr
        rw [hlaid.level r hr]
        exact ⟨Int.le_refl _, by simpa [hstarted] using hopen⟩
      · have hlt := habove r hr
        have hne' : (r.level == (index : Int)) = false := beq_false_of_ne (by omega)
        rw [hne']
        exact ⟨Int.le_of_lt hlt, hlater.behind (by simp) r hr⟩

theorem levelsFrom_returns {index : Nat} {started : Bool} {levels : List ApprovalLevel}
    {ids left : Ids} {c : Chain} (hdrop : config.levels.drop index = levels)
    (h : (levelsFrom context round index started levels).Returns ids c left) :
    LaidFrom config round index started c := by
  induction levels generalizing index started ids left c with
  | nil =>
    simp only [levelsFrom, Work.pure_returns_iff] at h
    rw [← h.1]
    constructor <;> simp
  | cons level rest ih =>
    simp only [levelsFrom, Work.bind_returns_iff, Work.pure_returns_iff] at h
    obtain ⟨approvers, _, -, records, _, hrecords, later, _, hlater, rfl, -⟩ := h
    obtain ⟨hkind, hrest⟩ := kindAt?_of_drop hdrop
    obtain ⟨hlaid, hsome⟩ := levelRecords_returns hrecords
    exact LaidFrom.cons hkind hlaid hsome (ih hrest hlater)

/-! ## Where a chain starts -/

theorem LaidFrom.undecided {index : Nat} {c : Chain} (h : LaidFrom config round index false c)
    {r : ApprovalRecord} (hr : r ∈ c) : r.status = .pending ∨ r.status = .waiting := by
  obtain ⟨first, -, -, hall⟩ := h.first rfl (List.ne_nil_of_mem hr)
  exact (hall r hr).2.undecided

theorem LaidFrom.sound {index : Nat} {c : Chain} (h : LaidFrom config round index false c)
    (hdistinct : c.Distinct) : c.Sound config round where
  distinct := hdistinct
  inRound := h.inRound
  kind := h.kind
  oneHolder a ha b hb hl hp _ _ := h.alone a ha b hb hl hp
  handedOver r hr hd := by
    rcases h.undecided hr with hs | hs <;> simp [hs] at hd

/-- The first level is open: in a sequence whoever has the first place there is asked, else
everybody is. -/
theorem LaidFrom.levelOpen {index : Nat} {c : Chain} (h : LaidFrom config round index false c)
    (hdistinct : c.Distinct) {first : ApprovalRecord} (hfirst : first ∈ c)
    (hzero : first.position = 0)
    (hall : ∀ r ∈ c, r.level = first.level → r.Untouched true) : c.LevelOpen first.level := by
  have hsound := h.sound hdistinct
  have hstatus : ∀ r ∈ c, r.level = first.level →
      r.status = if r.kind != .sequential || r.position == 0 then .pending else .waiting := by
    intro r hr hl
    simpa using (hall r hr hl).status
  have hpending : first.status = .pending := by simp [hstatus first hfirst rfl, hzero]
  constructor
  case reached => exact ⟨first, hfirst, rfl, hpending⟩
  case undecided =>
    intro r hr _
    rcases h.undecided hr with hs | hs
    · exact .inl hs
    · exact .inr (.inl hs)
  case inSequence =>
    intro r hr hl hk hp s hs hsl
    have hat : ∀ a ∈ c, a.level = first.level → a.kind = .sequential → a.status = .pending →
        a.position = 0 := by
      intro a ha hal hak hap
      rw [hstatus a ha hal, hak] at hap
      simpa using hap
    have hks : s.kind = .sequential := (hsound.same_kind hs hr (hsl.trans hl.symm)).trans hk
    have hrz : r.position = 0 := hat r hr hl hk hp
    constructor
    · intro hsp
      apply h.alone s hs r hr (hsl.trans hl.symm)
      rw [hrz, hat s hs hsl hks hsp]
    · intro hsw
      have hplace : 0 ≤ s.position := h.place s hs
      have hnz : s.position ≠ 0 := by
        intro hz
        simp [hstatus s hs hsl, hz] at hsw
      omega
  case together =>
    intro r hr hl hk
    simp [hstatus r hr hl, hk]
  case anyOf =>
    intro r hr _ _
    rcases h.undecided hr with hs | hs <;> simp [hs]
  case held =>
    intro r hr hl
    refine ⟨r, hr, hl, rfl, ?_⟩
    rcases h.undecided hr with hs | hs <;> simp [hs]

theorem LaidFrom.stands {index : Nat} {c : Chain} (h : LaidFrom config round index false c)
    (hne : c ≠ []) (hdistinct : c.Distinct) : ∃ level, c.StandsAt config round level := by
  obtain ⟨first, hfirst, hzero, hall⟩ := h.first rfl hne
  refine ⟨first.level, h.sound hdistinct, ?below, ?here, ?above⟩
  case below =>
    intro l hl
    apply LevelCleared.of_empty
    intro r hr he
    have hle := (hall r hr).1
    omega
  case here =>
    apply h.levelOpen hdistinct hfirst hzero
    intro r hr hl
    simpa [hl] using (hall r hr).2
  case above =>
    intro l hl r hr he
    have hbehind : r.Untouched false := by
      have hu := (hall r hr).2
      have hne' : (r.level == first.level) = false := beq_false_of_ne (by omega)
      rw [hne'] at hu
      exact hu
    exact ⟨hbehind.waiting, hbehind.requestedAt hbehind.waiting, hbehind.decidedAt⟩

end Chain

theorem ApprovalConfig.startChain_laid {config : ApprovalConfig} {context : Context} {round : Int}
    {ids left : Ids} {start : Chain} (h : (config.startChain context round).Returns ids start left)
    (hne : start ≠ []) : Chain.LaidFrom config round 0 false start := by
  unfold startChain at h
  rw [Work.bind_returns_iff] at h
  obtain ⟨required, between, -, h⟩ := h
  split at h
  · have hdrop : config.levels.drop 0 = config.levels := rfl
    exact Chain.levelsFrom_returns hdrop h
  · simp only [Work.pure_returns_iff] at h
    exact absurd h.1.symm hne

theorem ApprovalConfig.startChain_stands {config : ApprovalConfig} {context : Context} {round : Int}
    {ids left : Ids} {start : Chain} (h : (config.startChain context round).Returns ids start left)
    (hne : start ≠ []) (hdistinct : start.Distinct) :
    (∃ level, start.StandsAt config round level) ∧
      ∀ r ∈ start, r.status = .pending ∨ r.status = .waiting := by
  have hlaid := config.startChain_laid h hne
  exact ⟨hlaid.stands hne hdistinct, fun r hr => hlaid.undecided hr⟩

/-! ## Whether anybody is asked -/

/-- A level asks somebody: its condition holds, and it has approvers. -/
def ApprovalLevel.Asks (level : ApprovalLevel) (context : Context) : Prop :=
  Group.holds? level.condition context = .ok true ∧
    ∃ approvers, level.approversIn context.data = .ok approvers ∧ approvers ≠ []

theorem ApprovalLevel.asks_iff {level : ApprovalLevel} {context : Context}
    {approvers : List Approver} (h : level.askedIn context = .ok approvers) :
    level.Asks context ↔ approvers ≠ [] := by
  obtain ⟨applies, happlies, h⟩ := Work.except_bind_eq_ok_iff.mp h
  rw [Asks, happlies]
  cases applies with
  | false =>
    obtain rfl := Except.ok.inj h
    simp
  | true =>
    replace h : level.approversIn context.data = .ok approvers := h
    simp [h]

theorem Chain.levelsFrom_eq_nil_iff {context : Context} {round index : Int} {started : Bool}
    {levels : List ApprovalLevel} {ids left : Ids} {c : Chain}
    (h : (levelsFrom context round index started levels).Returns ids c left) :
    c = [] ↔ ∀ level ∈ levels, ¬ level.Asks context := by
  induction levels generalizing index started ids left c with
  | nil =>
    simp only [levelsFrom, Work.pure_returns_iff] at h
    simp [← h.1]
  | cons level rest ih =>
    simp only [levelsFrom, Work.bind_returns_iff, Work.pure_returns_iff, Work.lift_returns_iff] at h
    obtain ⟨approvers, _, ⟨happrovers, -⟩, records, _, hrecords, later, _, hlater, rfl, -⟩ := h
    have hsome := (levelRecords_returns hrecords).2
    have hhere : records = [] ↔ ¬ level.Asks context := by
      rw [ApprovalLevel.asks_iff happrovers, not_not]
      by_cases hnobody : approvers = []
      · simpa [hnobody] using hsome
      · simp only [List.isEmpty_iff, hnobody, ↓reduceIte] at hsome
        obtain ⟨r, hr, -⟩ := hsome
        simp [hnobody, List.ne_nil_of_mem hr]
    rw [List.append_eq_nil_iff, hhere, ih hlater, List.forall_mem_cons]

/-- A round is started without records just where no chain is required, or no level asks anybody. -/
theorem ApprovalConfig.startChain_eq_nil_iff {config : ApprovalConfig} {context : Context}
    {round : Int} {ids left : Ids} {c : Chain}
    (h : (config.startChain context round).Returns ids c left) :
    c = [] ↔ (config.isRequired context = .ok true →
      ∀ level ∈ config.levels, ¬ level.Asks context) := by
  simp only [startChain, Work.bind_returns_iff, Work.lift_returns_iff] at h
  obtain ⟨required, _, ⟨hrequired, rfl⟩, h⟩ := h
  cases required with
  | false =>
    simp only [Bool.false_eq_true, ↓reduceIte, Work.pure_returns_iff] at h
    simp [← h.1, hrequired]
  | true =>
    simp only [↓reduceIte] at h
    simp [Chain.levelsFrom_eq_nil_iff h, hrequired]

end Formwork
