import Formwork.Proofs.Automation.Isolation
import Formwork.Proofs.Renaming.Rules
import Formwork.Proofs.Workflow.Finished
/-!
# What a rule leaves behind

Rules influence each other only through the fields that they update and the transitions that they
make. A rule that brings about neither takes names for what it asks of others, and that is all that
can be told of it later: without it, the other rules have the results that they have with it, under
other names.
-/
namespace Formwork

/-! ## A rule that leaves nothing behind -/

/-- No action of the rule has updated a field or made a transition. -/
def RuleResult.Quiet (r : RuleResult) : Prop :=
  ∀ o ∈ r.actions, o.update = none ∧ o.transition = none

instance (r : RuleResult) : Decidable r.Quiet :=
  inferInstanceAs (Decidable (∀ o ∈ r.actions, o.update = none ∧ o.transition = none))

namespace Stage

variable {s s' : Stage} {settings : Settings} {trigger : Trigger} {rule r : BusinessRule}
  {ids left : Ids} {result : RuleResult}

theorem Works.still {actions : List Action} {outcomes : List ActionOutcome}
    (h : Works settings rule s actions outcomes s')
    (quiet : ∀ o ∈ outcomes, o.update = none ∧ o.transition = none) : s' = s := by
  induction h with
  | done => rfl
  | @acted s _ _ _ o _ _ _ _ _ ih =>
    obtain ⟨⟨hupdate, htransition⟩, hlater⟩ := List.forall_mem_cons.mp quiet
    rw [ih hlater, after, hupdate, htransition]
  | failed _ => rfl

/-- To rename what is still to be given out leaves the stage as it is. -/
def Settled (s : Stage) (ids : Ids) : Prop := ∀ f, ids.Renews f → s.rename f = s

theorem run_settled (h : s.run settings trigger rule ids = ((result, s'), left))
    (settled : s.Settled ids) :
    ids.Grown left ∧ s'.Settled left ∧ ∀ f, left.Renews f → result.rename f = result := by
  have hgrown : ids.Grown left := by
    have hrun := ((s.run_renamed (ρ := ⟨id, Function.injective_id, fun _ => 0⟩) settings trigger
      rule).state ids).1
    rw [h] at hrun
    exact hrun
  have hrenamed : ∀ f, left.Renews f → (result.rename f, s'.rename f) = (result, s') := by
    intro f renews
    -- on a supply that is not ahead at all, the run has to come to itself, renamed
    let ρ : Renaming := ⟨f, renews.injective, fun _ => 0⟩
    have hrun := ((s.run_renamed (ρ := ρ) settings trigger rule).state ids).2 ids
      (fun _ => rfl) fun mark n _ hle => by
        rw [h] at hle
        exact renews.old _ fun hkept => absurd (Ids.keeps_name_iff.mp hkept) (Nat.not_lt.mpr hle)
    rw [settled f (renews.of_grown hgrown), h] at hrun
    exact hrun.symm
  exact ⟨hgrown, fun f renews => congrArg Prod.snd (hrenamed f renews),
    fun f renews => congrArg Prod.fst (hrenamed f renews)⟩

theorem runAll_cons {rest : List BusinessRule}
    (h : s.run settings trigger rule ids = ((result, s'), left)) :
    (runAll settings trigger (rule :: rest) s ids).1 =
      result :: if rule.stops then [] else (runAll settings trigger rest s' left).1 := by
  simp only [runAll, bind, StateT.bind, h]
  cases rule.stops <;> rfl

/-- Without a rule whose own result is quiet, the other rules have the results that they have with
it, under other names. -/
theorem runAll_without (goesOn : r.stops = false) (pre post : List BusinessRule)
    (settled : s.Settled ids)
    (quiet : ∀ own ∈ (runAll settings trigger (pre ++ r :: post) s ids).1[pre.length]?,
      own.Quiet) :
    ∃ f, ids.Renews f ∧
      (runAll settings trigger (pre ++ r :: post) s ids).1.eraseIdx pre.length =
        (runAll settings trigger (pre ++ post) s ids).1.map (·.rename f) := by
  induction pre generalizing s ids with
  | nil =>
    -- the rule leaves its stage behind as it was, only with fewer names to give out
    rcases hrun : s.run settings trigger r ids with ⟨⟨own, s'⟩, left⟩
    rw [List.nil_append, runAll_cons hrun, goesOn] at quiet ⊢
    obtain ⟨outcomes, rfl, hworks⟩ := run_works hrun
    obtain rfl := hworks.still (quiet _ rfl)
    have hgrown := (run_settled hrun settled).1
    obtain ⟨f, renews, moves⟩ :=
      ids.exists_renews fun mark => left.count mark - ids.count mark
    refine ⟨f, renews, ?_⟩
    let ρ : Renaming := ⟨f, renews.injective, fun mark => left.count mark - ids.count mark⟩
    have hlater := ((runAll_renamed (ρ := ρ) settings trigger post s').state ids).2 left
        (fun mark => (Nat.add_sub_of_le (hgrown mark)).symm) fun mark n hlt _ => moves mark n hlt
    rw [settled f renews] at hlater
    exact hlater
  | cons x pre ih =>
    rcases hrun : s.run settings trigger x ids with ⟨⟨result, s'⟩, left⟩
    rw [List.cons_append, List.cons_append, runAll_cons hrun, runAll_cons hrun,
      List.length_cons] at *
    obtain ⟨hgrown, hsettled, hresult⟩ := run_settled hrun settled
    by_cases hstops : x.stops = true
    · rw [if_pos hstops, if_pos hstops]
      refine ⟨id, ids.renews_id, ?_⟩
      simp [hresult id left.renews_id]
    · rw [if_neg hstops] at quiet
      rw [if_neg hstops, if_neg hstops]
      obtain ⟨f, renews, hlater⟩ := ih hsettled fun own hown => quiet own hown
      refine ⟨f, renews.of_grown hgrown, ?_⟩
      rw [List.eraseIdx_cons_succ, hlater, List.map_cons, hresult f renews]

end Stage

/-! ## Its turn -/

namespace BusinessRule

/-- The order of rules is fixed by their priorities and by the order of those of one priority. -/
theorem eq_of_descending {order order' : List BusinessRule}
    (h : order.Pairwise fun a b => b.priority ≤ a.priority)
    (h' : order'.Pairwise fun a b => b.priority ≤ a.priority)
    (same : ∀ p : Int, order.filter (·.priority = p) = order'.filter (·.priority = p)) :
    order = order' := by
  induction order generalizing order' with
  | nil =>
    cases order' with
    | nil => rfl
    | cons b rest => simpa using same b.priority
  | cons a rest ih =>
    cases order' with
    | nil => simpa using same a.priority
    | cons b rest' =>
      have ha : a ∈ (b :: rest').filter (·.priority = a.priority) := by simp [← same a.priority]
      have hb : b ∈ (a :: rest).filter (·.priority = b.priority) := by simp [same b.priority]
      have hle : a.priority ≤ b.priority := by
        rcases List.mem_cons.mp (List.mem_filter.mp ha).1 with rfl | hmem
        · exact Int.le_refl _
        · exact (List.pairwise_cons.mp h').1 a hmem
      have hge : b.priority ≤ a.priority := by
        rcases List.mem_cons.mp (List.mem_filter.mp hb).1 with rfl | hmem
        · exact Int.le_refl _
        · exact (List.pairwise_cons.mp h).1 b hmem
      have hfirst := same a.priority
      rw [List.filter_cons_of_pos (by simp), List.filter_cons_of_pos
        (by simpa using Int.le_antisymm hge hle)] at hfirst
      obtain ⟨rfl, -⟩ := List.cons.inj hfirst
      refine congrArg (a :: ·) (ih (List.pairwise_cons.mp h).2 (List.pairwise_cons.mp h').2
        fun p => ?_)
      have hp := same p
      by_cases hpriority : a.priority = p
      · simpa [List.filter_cons, hpriority] using hp
      · simpa [List.filter_cons, hpriority] using hp

/-- Some rules in the order in which they run. -/
abbrev inOrder (rules : List BusinessRule) : List BusinessRule :=
  rules.mergeSort fun a b => decide (b.priority ≤ a.priority)

theorem mem_inOrder {x : BusinessRule} {rules : List BusinessRule} :
    x ∈ inOrder rules ↔ x ∈ rules :=
  (mergeSort_runOrder rules).perm.mem_iff

theorem filter_priority (test : Int → Bool) (q : Int) (rules : List BusinessRule) :
    (rules.filter fun x => test x.priority).filter (·.priority = q) =
      if test q then rules.filter (·.priority = q) else [] := by
  rw [List.filter_filter]
  split
  · rename_i htest
    refine List.filter_congr fun x _ => ?_
    by_cases hx : x.priority = q <;> simp [hx, htest]
  · rename_i htest
    refine List.filter_eq_nil_iff.mpr fun x _ => ?_
    by_cases hx : x.priority = q <;> simp [hx, htest]

/-- Rules of one priority run one after another, behind those of a higher priority and ahead of
those of a lower one. -/
theorem inOrder_eq (p : Int) (rules : List BusinessRule) :
    inOrder rules = inOrder (rules.filter (p < ·.priority)) ++
      (rules.filter (·.priority = p) ++ inOrder (rules.filter (·.priority < p))) := by
  have hrules := mergeSort_runOrder rules
  have hhigh := mergeSort_runOrder (rules.filter (p < ·.priority))
  have hlow := mergeSort_runOrder (rules.filter (·.priority < p))
  refine eq_of_descending hrules.descending ?descending fun q => (hrules.stable q).trans ?same
  case descending =>
    refine List.pairwise_append.mpr ⟨hhigh.descending, List.pairwise_append.mpr
      ⟨List.pairwise_of_forall_mem_list fun a ha b hb => ?_, hlow.descending, fun a ha b hb => ?_⟩,
      fun a ha b hb => ?_⟩
    all_goals
      simp only [List.mem_append, mem_inOrder, List.mem_filter, decide_eq_true_eq] at ha hb
      omega
  case same =>
    rw [List.filter_append, List.filter_append, hhigh.stable q, hlow.stable q,
      filter_priority (fun n => decide (p < n)), filter_priority (fun n => decide (n = p)),
      filter_priority (fun n => decide (n < p))]
    rcases Int.lt_trichotomy q p with hlt | rfl | hgt
    · simp [hlt, Int.not_lt.mpr (Int.le_of_lt hlt), Int.ne_of_lt hlt]
    · simp
    · simp [hgt, Int.not_lt.mpr (Int.le_of_lt hgt), Int.ne_of_gt hgt]

theorem countP_priority_le (p : Int) (rules : List BusinessRule) :
    rules.countP (p ≤ ·.priority) =
      rules.countP (p < ·.priority) + rules.countP (·.priority = p) := by
  induction rules with
  | nil => rfl
  | cons x rest ih =>
    simp only [List.countP_cons, ih, decide_eq_true_eq]
    grind

/-- How many of some rules run before one that stands between the two parts of them: those of a
higher priority, and of those that stand before it also those of its own. -/
def turn (before : List BusinessRule) (r : BusinessRule) (after : List BusinessRule) : Nat :=
  before.countP (r.priority ≤ ·.priority) + after.countP (r.priority < ·.priority)

theorem exists_inOrder (before : List BusinessRule) (r : BusinessRule)
    (after : List BusinessRule) : ∃ pre post,
      inOrder (before ++ r :: after) = pre ++ r :: post ∧
      inOrder (before ++ after) = pre ++ post ∧ pre.length = turn before r after := by
  refine ⟨inOrder ((before ++ after).filter (r.priority < ·.priority)) ++
      before.filter (·.priority = r.priority),
    after.filter (·.priority = r.priority) ++
      inOrder ((before ++ after).filter (·.priority < r.priority)), ?_, ?_, ?_⟩
  · rw [inOrder_eq r.priority]
    simp
  · rw [inOrder_eq r.priority]
    simp
  · rw [turn, countP_priority_le, List.length_append, List.length_mergeSort, List.filter_append,
      List.length_append, ← List.countP_eq_length_filter, ← List.countP_eq_length_filter,
      ← List.countP_eq_length_filter]
    omega

theorem upToStop_prefix (rules : List BusinessRule) : upToStop rules <+: rules := by
  induction rules with
  | nil => exact List.prefix_refl _
  | cons r rest ih =>
    rw [upToStop]
    split
    · exact (List.prefix_cons_inj r).mpr List.nil_prefix
    · exact (List.prefix_cons_inj r).mpr ih

theorem records_at {order : List BusinessRule} {results : List RuleResult} {settings : Settings}
    {trigger : Trigger} {n : Nat} {result : RuleResult}
    (h : List.Forall₂ (RuleResult.Records settings trigger) (upToStop order) results)
    (hresult : results[n]? = some result) :
    ∃ x, order[n]? = some x ∧ RuleResult.Records settings trigger x result := by
  obtain ⟨hlength, hrecords⟩ := List.forall₂_iff_get.mp h
  obtain ⟨hn, rfl⟩ := List.getElem?_eq_some_iff.mp hresult
  have hn' : n < (upToStop order).length := hlength ▸ hn
  obtain ⟨unrun, horder⟩ := upToStop_prefix order
  refine ⟨(upToStop order)[n], ?_, hrecords n hn' hn⟩
  calc order[n]? = (upToStop order ++ unrun)[n]? := by rw [horder]
    _ = some (upToStop order)[n] := by
      rw [List.getElem?_append_left hn', List.getElem?_eq_getElem hn']

/-- Rules influence each other only through updates and transitions. Of a list of rules of which it
can be told whether they run, let one be left out that does not end the run, and let the names on
the stage have been given out before. If the rule is not called for, the others have the very same
results. If it is, its own result stands at its turn, unless the run ended before; where that result
has no update and no transition, the others have the results that they have with it, up to the names
that are given out. -/
theorem evaluate_without {before after : List BusinessRule} {r : BusinessRule} {trigger : Trigger}
    {event : TriggerEvent} {stage : Stage} {ids : Ids}
    (answered : ∀ x ∈ before ++ r :: after, x.active = true → x.trigger = trigger →
      x.Heeds event → ∃ b, Group.holds? x.conditions stage.context = .ok b)
    (goesOn : r.stops = false) (given : ∀ a ∈ stage.names, ¬ ids.Keeps a) (settings : Settings) :
    ∃ results left results' left',
      (evaluate (before ++ r :: after) trigger event settings stage).Returns ids results left ∧
      (evaluate (before ++ after) trigger event settings stage).Returns ids results' left' ∧
      (called trigger event stage.context r = false → results = results') ∧
      (called trigger event stage.context r = true → ∃ n,
        n = turn (before.filter (called trigger event stage.context)) r
          (after.filter (called trigger event stage.context)) ∧
        (∀ own ∈ results[n]?, RuleResult.Records settings trigger r own) ∧
        ((∀ own ∈ results[n]?, own.Quiet) →
          ∃ f, ids.Renews f ∧ results.eraseIdx n = results'.map (·.rename f))) := by
  have hevaluate : ∀ rules ⊆ before ++ r :: after,
      evaluate rules trigger event settings stage = ExceptT.lift (Stage.runAll settings trigger
        (inOrder (rules.filter (called trigger event stage.context))) stage) :=
    fun rules hsub => evaluate_of_select
      (select_eq_ok_iff.mpr ⟨fun x hx => runs_answered (answered x (hsub hx)), rfl⟩) settings
  have hothers : before ++ after ⊆ before ++ r :: after :=
    List.append_subset.mpr ⟨List.subset_append_left _ _,
      List.Subset.trans (List.subset_cons_self r after) (List.subset_append_right _ _)⟩
  rw [hevaluate _ (List.Subset.refl _), hevaluate _ hothers, List.filter_append,
    List.filter_append]
  refine ⟨_, _, _, _, Work.state_returns_iff.mpr rfl, Work.state_returns_iff.mpr rfl,
    fun idle => ?idle, fun hcalled => ?called⟩
  case idle => rw [List.filter_cons_of_neg (by simp [idle])]
  case called =>
    rw [List.filter_cons_of_pos hcalled]
    obtain ⟨pre, post, hwith, hwithout, hturn⟩ :=
      exists_inOrder (before.filter (called trigger event stage.context)) r
        (after.filter (called trigger event stage.context))
    rw [hwith, hwithout]
    refine ⟨pre.length, hturn, fun own hown => ?_, Stage.runAll_without goesOn pre post
      fun f renews => Stage.rename_eq_self fun a ha => renews.old a (given a ha)⟩
    obtain ⟨_, hruns⟩ := Stage.runAll_runs rfl
    obtain ⟨x, hx, hrecords⟩ := records_at hruns.records hown
    rw [List.getElem?_append_right (Nat.le_refl _), Nat.sub_self] at hx
    cases hx
    exact hrecords

end BusinessRule

/-! A reminder that asks for one message, before another rule asks for one too and cancels the
review. -/
namespace Reminder

open Release (noon)
open Mishap (rule)

def message : Deed :=
  .notify { recipients := ["ann"], template := none, subject := none, message := some "Overdue",
            channel := "mail" }

def remind : BusinessRule := rule "remind" 1 [message]

def cancel : BusinessRule := rule "cancel" 0 [message, .changeStatus .cancelled]

def state : SubmissionState :=
  { step := "review", status := .inProgress,
    history := [⟨Ids.name .event 1, .workflowStarted, .ofInstant noon, none, none, []⟩] }

def stage : Stage := { context := .ofNow noon, workflow := some (Release.request state) }

def ids : Ids := { events := 1 }

def pass (rules : List BusinessRule) : Work (List RuleResult) :=
  BusinessRule.evaluate rules .scheduled { trigger := .scheduled } {} stage

theorem pass_eq : ((pass [remind, cancel]).answer? ids).map (fun results =>
      (results.map fun r => (r.rule, r.instructions.map (·.id)),
        results[0]?.map fun r => decide r.Quiet)) =
    some ([("remind", ["INS-000000000001"]), ("cancel", ["INS-000000000002"])], some true) := by
  have hselected : BusinessRule.select [remind, cancel] .scheduled { trigger := .scheduled }
      stage.context = .ok [remind, cancel] :=
    congrArg Except.ok (List.mergeSort_of_pairwise (by decide))
  rw [pass, BusinessRule.evaluate_of_select hselected]
  decide +kernel

end Reminder

namespace BusinessRule

/-- Without the reminder, the other message is the first one, and all else is as it was. -/
theorem evaluate_without_reminder : ∃ results left results' left' f,
    (Reminder.pass [Reminder.remind, Reminder.cancel]).Returns Reminder.ids results left ∧
    (Reminder.pass [Reminder.cancel]).Returns Reminder.ids results' left' ∧
    results.map (fun r => (r.rule, r.instructions.map (·.id))) =
      [("remind", ["INS-000000000001"]), ("cancel", ["INS-000000000002"])] ∧
    Reminder.ids.Renews f ∧ results.eraseIdx 0 = results'.map (·.rename f) := by
  have answered : ∀ x ∈ [] ++ Reminder.remind :: [Reminder.cancel], x.active = true →
      x.trigger = .scheduled → x.Heeds { trigger := .scheduled } →
      ∃ b, Group.holds? x.conditions Reminder.stage.context = .ok b := by
    simp [Reminder.remind, Reminder.cancel, Mishap.rule, Group.holds?]
  have given : ∀ a ∈ Reminder.stage.names, ¬ Reminder.ids.Keeps a := by
    intro a ha
    obtain rfl := List.mem_singleton.mp ha
    exact fun hkept => absurd (Ids.keeps_name_iff.mp hkept) (Nat.lt_irrefl 1)
  obtain ⟨results, left, results', left', hreturned, hreturned', hresults⟩ :=
    evaluate_without answered rfl given {}
  obtain ⟨found, hfound, hparts⟩ := Option.map_eq_some_iff.mp Reminder.pass_eq
  obtain ⟨_, hfound⟩ := Work.answer?_eq_some hfound
  obtain ⟨rfl, -⟩ := hreturned.unique hfound
  obtain ⟨hnames, hquiet⟩ := Prod.mk.inj hparts
  obtain ⟨n, hturn, -, hothers⟩ := hresults.2 (by decide)
  obtain rfl : n = 0 := hturn.trans (by decide)
  obtain ⟨f, renews, hsame⟩ := hothers fun own hown => by
    rw [Option.mem_def.mp hown, Option.map_some, Option.some.injEq] at hquiet
    exact of_decide_eq_true hquiet
  exact ⟨results, left, results', left', f, hreturned, hreturned', hnames, renews, hsame⟩

end BusinessRule
end Formwork
