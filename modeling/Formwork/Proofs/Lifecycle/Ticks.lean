import Formwork.Lifecycle.Act
import Formwork.Proofs.Automation.Removing
/-!
# A tick over many submissions

A tick runs the scheduled rules of one submission after another. Whether a submission has a rule
that runs can be told of it alone, and one that has none, be it because none is called for or
because it cannot be told, leaves no trace: all others come to what they come to without it. What
is handed on of a submission are the results that it has alone, under other names where names were
given out before.
-/
namespace Formwork

open Calendar

/-- A submission with the template of its form. -/
abbrev Filing := FormTemplate × Submission

namespace Filing

variable (settings : Settings) (host : Host) (now : Instant) (p : Filing)

/-- What the rules of the form act on. -/
def stage : Stage :=
  let context := p.1.contextFor p.2 settings host now none
  ⟨context, p.1.workflowRequest? p.2 context {}⟩

/-- The scheduled rules that run, where that can be told. -/
def selected : Except Failure (List BusinessRule) :=
  BusinessRule.select p.1.businessRules .scheduled { trigger := .scheduled }
    (stage settings host now p).context

/-- The scheduled run of the submission. -/
def scheduled : Work (List RuleResult) := p.1.runScheduled p.2 settings host now {}

/-- Whether it cannot be told which rules run. -/
def isPassedOver : Bool :=
  match selected settings host now p with
  | .error _ => true
  | .ok _ => false

/-- Whether a rule runs. -/
def isProcessed : Bool :=
  match selected settings host now p with
  | .error _ => false
  | .ok rules => !rules.isEmpty

variable {settings host now p} {ids left : Ids}

theorem scheduled_eq : scheduled settings host now p = Work.lift (selected settings host now p) >>=
    fun rules =>
      ExceptT.lift (Stage.runAll settings .scheduled rules (stage settings host now p)) := rfl

end Filing

theorem Stage.runAll_eq_nil_iff (settings : Settings) (trigger : Trigger)
    (rules : List BusinessRule) (s : Stage) (ids : Ids) :
    (runAll settings trigger rules s ids).1 = [] ↔ rules = [] := by
  cases rules with
  | nil => exact iff_of_true rfl rfl
  | cons r rest =>
    rcases hrun : s.run settings trigger r ids with ⟨⟨result, s'⟩, left⟩
    rw [runAll_cons hrun]
    simp

namespace Filing

variable {settings : Settings} {host : Host} {now : Instant} {p : Filing} {ids left : Ids}
  {results : List RuleResult}

theorem scheduled_fails_iff : (∃ f, (scheduled settings host now p).Fails ids f) ↔
    isPassedOver settings host now p = true := by
  rw [scheduled_eq, isPassedOver]
  cases hselected : selected settings host now p with
  | error f => exact iff_of_true ⟨f, Work.bind_fails_iff.mpr (.inl rfl)⟩ rfl
  | ok rules =>
    refine iff_of_false ?_ Bool.false_ne_true
    rintro ⟨f, hf⟩
    rw [Work.lift_ok_bind] at hf
    exact Work.Returns.not_fails (Work.state_returns_iff.mpr rfl) hf

theorem scheduled_returns_iff : (scheduled settings host now p).Returns ids results left ↔
    ∃ rules, selected settings host now p = .ok rules ∧
      Stage.runAll settings .scheduled rules (stage settings host now p) ids = (results, left) := by
  rw [scheduled_eq]
  cases hselected : selected settings host now p with
  | error f => simp [Work.lift_error_bind]
  | ok rules =>
    rw [Work.lift_ok_bind, Work.state_returns_iff]
    simp

theorem isProcessed_iff : isProcessed settings host now p = true ↔
    ∃ results left, (scheduled settings host now p).Returns ids results left ∧ results ≠ [] := by
  simp only [scheduled_returns_iff, isProcessed]
  cases hselected : selected settings host now p with
  | error f => simp
  | ok rules =>
    have hnil := Stage.runAll_eq_nil_iff settings .scheduled rules (stage settings host now p) ids
    rw [Bool.not_eq_true', List.isEmpty_eq_false_iff, ne_eq, ← hnil]
    constructor
    · exact fun hsome => ⟨_, _, ⟨rules, rfl, rfl⟩, hsome⟩
    · rintro ⟨results, left, ⟨rules', hrules, hruns⟩, hsome⟩
      obtain rfl := Except.ok.inj hrules
      rwa [hruns]

theorem scheduled_idle (idle : isProcessed settings host now p = false) (ids : Ids) :
    (scheduled settings host now p).Returns ids [] ids ∨
      ∃ f, (scheduled settings host now p).outcome ids = (.error f, ids) := by
  rw [isProcessed] at idle
  rw [scheduled_eq]
  cases hselected : selected settings host now p with
  | error f => exact .inr ⟨f, rfl⟩
  | ok rules =>
    have hrules : rules = [] := by simpa [hselected] using idle
    subst hrules
    exact .inl (Work.state_returns_iff.mpr rfl)

/-- Names that are given out before a run change its results in nothing but names, if what is on the
stage has been named before. -/
theorem scheduled_renamed {between : Ids}
    (given : ∀ a ∈ (stage settings host now p).names, ¬ ids.Keeps a) (grown : ids.Grown between)
    (h : (scheduled settings host now p).Returns between results left) :
    ∃ alone left' f, (scheduled settings host now p).Returns ids alone left' ∧ ids.Renews f ∧
      results = alone.map (·.rename f) := by
  obtain ⟨rules, hselected, hruns⟩ := scheduled_returns_iff.mp h
  obtain ⟨f, renews, moves⟩ := ids.exists_renews fun mark => between.count mark - ids.count mark
  let ρ : Renaming := ⟨f, renews.injective, fun mark => between.count mark - ids.count mark⟩
  have hsettled : (stage settings host now p).rename f = stage settings host now p :=
    Stage.rename_eq_self fun a ha => renews.old a (given a ha)
  have hrenamed := ((Stage.runAll_renamed (ρ := ρ) settings .scheduled rules
    (stage settings host now p)).state ids).2 between
      (fun mark => (Nat.add_sub_of_le (grown mark)).symm) fun mark n hlt _ => moves mark n hlt
  rw [hsettled, hruns] at hrenamed
  exact ⟨_, _, f, scheduled_returns_iff.mpr ⟨rules, hselected, rfl⟩, renews, hrenamed⟩

theorem scheduled_grown (h : (scheduled settings host now p).Returns ids results left) :
    ids.Grown left := by
  obtain ⟨rules, -, hruns⟩ := scheduled_returns_iff.mp h
  have hgrown := ((Stage.runAll_renamed (ρ := ⟨id, Function.injective_id, fun _ => 0⟩) settings
    .scheduled rules (stage settings host now p)).state ids).1
  rwa [hruns] at hgrown

end Filing

/-! ## One submission after another -/

section Pass

variable {settings : Settings} {host : Host} {now : Instant} {p : Filing} {ids : Ids}

theorem runScheduledEach_of_fails {f : Failure} {between : Ids} (rest : List Filing)
    (h : (p.scheduled settings host now).outcome ids = (.error f, between)) :
    runScheduledEach settings host now (p :: rest) ids =
      runScheduledEach settings host now rest between := by
  simp only [runScheduledEach, bind, StateT.bind]
  rw [show (p.1.runScheduled p.2 settings host now {}).run ids = (.error f, between) from h]
  rfl

theorem runScheduledEach_of_returns {results : List RuleResult} {between : Ids}
    (rest : List Filing) (h : (p.scheduled settings host now).Returns ids results between) :
    runScheduledEach settings host now (p :: rest) ids =
      ((if results.isEmpty then (runScheduledEach settings host now rest between).1
        else (runScheduledEach settings host now rest between).1.handOn p.2 results),
        (runScheduledEach settings host now rest between).2) := by
  simp only [runScheduledEach, bind, StateT.bind]
  rw [show (p.1.runScheduled p.2 settings host now {}).run ids = (.ok results, between) from h]
  rfl

theorem runScheduledEach_of_idle (idle : p.isProcessed settings host now = false)
    (rest : List Filing) :
    runScheduledEach settings host now (p :: rest) = runScheduledEach settings host now rest := by
  funext ids
  rcases Filing.scheduled_idle idle ids with hreturned | ⟨f, hfailed⟩
  · rw [runScheduledEach_of_returns rest hreturned]
    rfl
  · exact runScheduledEach_of_fails rest hfailed

theorem runScheduledEach_of_processed (processed : p.isProcessed settings host now = true)
    (rest : List Filing) (ids : Ids) :
    ∃ results between, (p.scheduled settings host now).Returns ids results between ∧ results ≠ [] ∧
      (runScheduledEach settings host now (p :: rest) ids).1 =
        (runScheduledEach settings host now rest between).1.handOn p.2 results := by
  obtain ⟨results, between, hreturned, hsome⟩ := Filing.isProcessed_iff.mp processed
  refine ⟨results, between, hreturned, hsome, ?_⟩
  rw [runScheduledEach_of_returns rest hreturned, if_neg (by simpa using hsome)]

theorem runScheduledEach_filter (test : Filing → Bool) (pairs : List Filing)
    (kept : ∀ p ∈ pairs, p.isProcessed settings host now = true → test p = true) :
    runScheduledEach settings host now (pairs.filter test) =
      runScheduledEach settings host now pairs := by
  induction pairs with
  | nil => rfl
  | cons p rest ih =>
    obtain ⟨hkept, hrest⟩ := List.forall_mem_cons.mp kept
    by_cases htest : test p = true
    · rw [List.filter_cons_of_pos htest]
      funext ids
      rcases Work.returns_or_fails (p.scheduled settings host now) ids with
        ⟨results, between, hreturned⟩ | ⟨f, hfailed⟩
      · rw [runScheduledEach_of_returns _ hreturned, runScheduledEach_of_returns _ hreturned,
          ih hrest]
      · rw [runScheduledEach_of_fails (f := f) _ (Prod.ext hfailed rfl),
          runScheduledEach_of_fails (f := f) _ (Prod.ext hfailed rfl), ih hrest]
    · rw [List.filter_cons_of_neg htest, ih hrest, runScheduledEach_of_idle]
      exact Bool.eq_false_iff.mpr fun hprocessed => htest (hkept hprocessed)

end Pass

/-- What is handed on of a submission: the results that its scheduled run has when its turn comes.
If what it names was named before the tick, its run at the beginning of the tick has the same
results, under other names. -/
structure Filing.HandedOn (settings : Settings) (host : Host) (now : Instant) (ids : Ids) (p : Filing)
    (call : Submission × List RuleResult) : Prop where
  submission : call.1 = p.2
  results : ∃ ids' left, ids.Grown ids' ∧ (p.scheduled settings host now).Returns ids' call.2 left
  some_ran : call.2 ≠ []
  alone : (∀ a ∈ (p.stage settings host now).names, ¬ ids.Keeps a) →
    ∃ alone left f, (p.scheduled settings host now).Returns ids alone left ∧ ids.Renews f ∧
      call.2 = alone.map (·.rename f)

theorem runScheduledEach_hands (settings : Settings) (host : Host) (now : Instant)
    (pairs : List Filing) {ids between : Ids} (grown : ids.Grown between) :
    let done := (runScheduledEach settings host now pairs between).1
    List.Forall₂ (Filing.HandedOn settings host now ids)
        (pairs.filter (·.isProcessed settings host now)) done.handed ∧
      done.processed = done.handed.length := by
  induction pairs generalizing between with
  | nil => exact ⟨.nil, rfl⟩
  | cons p rest ih =>
    by_cases hprocessed : p.isProcessed settings host now = true
    · obtain ⟨results, later, hreturned, hsome, hdone⟩ :=
        runScheduledEach_of_processed hprocessed rest between
      have hlater := grown.trans (Filing.scheduled_grown hreturned)
      obtain ⟨hhanded, hcount⟩ := ih hlater
      simp only [hdone, List.filter_cons_of_pos hprocessed, Ticked.handOn]
      refine ⟨.cons ⟨rfl, ⟨between, later, grown, hreturned⟩, hsome, fun given => ?_⟩ hhanded, ?_⟩
      · exact Filing.scheduled_renamed given grown hreturned
      · simp [hcount]
    · have hidle : p.isProcessed settings host now = false := by simpa using hprocessed
      rw [List.filter_cons_of_neg hprocessed, runScheduledEach_of_idle hidle]
      exact ih grown

theorem Ids.skip_grown (ids : Ids) : ids.Grown ids.skip := by
  intro mark
  unfold skip
  cases ids.last with
  | none => exact Nat.le_refl _
  | some last => cases last <;> cases mark <;> simp [bump, count]

theorem tickAll_eq (settings : Settings) (host : Host) (now : Instant) (pairs : List Filing)
    (ids : Ids) :
    tickAll settings host now pairs ids = runScheduledEach settings host now pairs ids.skip := rfl

/-- Whether the scheduled run of a submission fails, and whether it returns any results, does not
depend on the names that there are. In the order in which they came, a tick hands on each
submission whose run returns results, once and with these results, counts it, and hands on no
other. Those whose runs fail may as well be left out. -/
theorem tick_passes_over (settings : Settings) (host : Host) (now : Instant) (pairs : List Filing)
    (ids : Ids) :
    (∀ (p : Filing) (ids' : Ids),
      (p.isProcessed settings host now = true ↔
        ∃ results left, (p.scheduled settings host now).Returns ids' results left ∧ results ≠ []) ∧
      (p.isPassedOver settings host now = true ↔ ∃ f, (p.scheduled settings host now).Fails ids' f)) ∧
    List.Forall₂ (Filing.HandedOn settings host now ids)
      (pairs.filter (·.isProcessed settings host now)) (tickAll settings host now pairs ids).1.handed ∧
    (tickAll settings host now pairs ids).1.processed =
      (pairs.filter (·.isProcessed settings host now)).length ∧
    tickAll settings host now (pairs.filter fun p : Filing => !p.isPassedOver settings host now) ids =
      tickAll settings host now pairs ids := by
  obtain ⟨hhanded, hcount⟩ := runScheduledEach_hands settings host now pairs ids.skip_grown
  refine ⟨fun p ids' => ⟨Filing.isProcessed_iff, Filing.scheduled_fails_iff.symm⟩, hhanded,
    hcount.trans hhanded.length_eq.symm, ?without⟩
  case without =>
    rw [tickAll_eq, tickAll_eq, runScheduledEach_filter]
    intro p _ hprocessed
    rw [Filing.isProcessed] at hprocessed
    rw [Filing.isPassedOver]
    cases hselected : p.selected settings host now with
    | error f => simp [hselected] at hprocessed
    | ok rules => rfl

/-! Three loans, of which one has a day that the calendar does not reach, one has none, and one is
due. -/
namespace Lending

open Mishap (rule)

def noon : Instant := ⟨43200000000, halfDay_lt_microCount⟩

/-- Takes a note where the day is past. -/
def remind : BusinessRule :=
  { rule "remind" 0 [.setField "note" (.text "due")] with
    conditions := some { nodes := [.leaf { field := "day", operator := .lessThan,
                                           value := .text "2030-01-01", valueType := .date }] } }

def filing (id : String) (day : Value) : Filing :=
  ({ id := "loan", fields := [{ id := "day" }], businessRules := [remind] },
    { id := id, data := [("day", day)], submitter := ⟨"u1", none, [], []⟩ })

def unreachable : Filing := filing "S1" (.text "0001-01-01T00:00+01:00")

def undated : Filing := filing "S2" .null

def due : Filing := filing "S3" (.text "2020-01-01")

theorem selected_unreachable : unreachable.selected {} {} noon = .error .beyondCalendar := rfl

theorem selected_undated : undated.selected {} {} noon = .ok [] :=
  congrArg Except.ok List.mergeSort_nil

theorem selected_due : due.selected {} {} noon = .ok [remind] :=
  congrArg Except.ok (List.mergeSort_singleton _)

theorem processed : [unreachable, undated, due].filter (·.isProcessed {} {} noon) = [due] := by
  simp [Filing.isProcessed, selected_unreachable, selected_undated, selected_due]

theorem kept : [unreachable, undated, due].filter (fun p : Filing => !p.isPassedOver {} {} noon) =
    [undated, due] := by
  simp [Filing.isPassedOver, selected_unreachable, selected_undated, selected_due]

end Lending

open Lending in
/-- One loan is handed on, with and without the one that has no such day. -/
theorem tick_passes_over_lending :
    (tickAll {} {} noon [unreachable, undated, due] {}).1.processed = 1 ∧
    (∃ results, (tickAll {} {} noon [unreachable, undated, due] {}).1.handed = [(due.2, results)] ∧
      results ≠ []) ∧
    tickAll {} {} noon [undated, due] {} = tickAll {} {} noon [unreachable, undated, due] {} := by
  obtain ⟨-, hhanded, hcount, hwithout⟩ := tick_passes_over {} {} noon [unreachable, undated, due] {}
  rw [processed] at hhanded hcount
  rw [kept] at hwithout
  refine ⟨hcount, ?_, hwithout⟩
  obtain ⟨call, _, hcall, hnone, hcalls⟩ := List.forall₂_cons_left_iff.mp hhanded
  rw [List.forall₂_nil_left_iff] at hnone
  subst hnone
  exact ⟨call.2, by rw [hcalls, ← hcall.submission], hcall.some_ran⟩

end Formwork
