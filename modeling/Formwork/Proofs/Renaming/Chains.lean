import Formwork.Proofs.Renaming.Data
import Formwork.Proofs.Renaming.Names
/-!
# Chains under other names

Chains compare the names of their records and put fresh ones in, and do nothing else with names. So
what becomes of a chain under other names is what becomes of it, under other names.
-/
namespace Formwork

open Calendar

/-! ## Reading a chain -/

namespace Chain

variable {f : String → String} {c : Chain} {r target : ApprovalRecord}

theorem rename_append (c later : Chain) :
    (c ++ later).rename f = c.rename f ++ later.rename f :=
  List.map_append

theorem rename_map {change change' : ApprovalRecord → ApprovalRecord}
    (h : ∀ r, change' (r.rename f) = (change r).rename f) (c : Chain) :
    (c.rename f).map change' = rename f (c.map change) := by
  unfold rename
  rw [List.map_map, List.map_map]
  exact List.map_congr_left fun r _ => h r

theorem rename_filter {test : ApprovalRecord → Bool} (blind : ∀ r, test (r.rename f) = test r)
    (c : Chain) : (c.rename f).filter test = rename f (c.filter test) := by
  unfold rename
  rw [List.filter_map, show test ∘ (·.rename f) = test from funext blind]

theorem rename_latest : (c.rename f).latest = c.latest.rename f := by
  have hrounds : (c.rename f).map (·.round) = c.map (·.round) := by
    simp [rename, ApprovalRecord.rename]
  unfold latest
  rw [hrounds]
  cases (c.map (·.round)).max? with
  | none => rfl
  | some round => exact rename_filter (fun _ => rfl) c

theorem rename_lowest : (c.rename f).lowest = c.lowest.rename f := by
  have hlevels : (c.rename f).map (·.level) = c.map (·.level) := by
    simp [rename, ApprovalRecord.rename]
  unfold lowest
  rw [hlevels]
  cases (c.map (·.level)).min? with
  | none => rfl
  | some level => exact rename_filter (fun _ => rfl) c

theorem rename_byPosition : (c.rename f).byPosition = c.byPosition.rename f :=
  (List.map_mergeSort (f := ApprovalRecord.rename f) fun _ _ _ _ => rfl).symm

theorem rename_front : (c.rename f).front = c.front.rename f := by
  unfold front
  rw [rename_byPosition]
  cases c.byPosition with
  | nil => rfl
  | cons r rest =>
    change (if r.kind = .sequential then _ else _) = _
    dsimp only
    split <;> rfl

theorem rename_actionable : (c.rename f).actionable = c.actionable.rename f := by
  unfold actionable
  dsimp only
  rw [rename_latest, rename_filter (fun _ => rfl), rename_lowest, rename_front]

theorem nextApprovers_rename : (c.rename f).nextApprovers = c.nextApprovers := by
  unfold nextApprovers
  rw [rename_actionable, rename, List.map_map]
  rfl

variable (injective : Function.Injective f)
include injective

theorem record?_rename (id : String) :
    (c.rename f).record? (f id) = (c.record? id).map (·.rename f) := by
  unfold record? rename
  rw [List.find?_map]
  congr 2
  funext r
  simp [ApprovalRecord.rename, injective.eq_iff]

theorem rename_markEscalated (id : String) :
    (c.rename f).markEscalated (f id) = (c.markEscalated id).rename f := by
  refine rename_map (fun r => ?_) c
  by_cases hid : r.id = id <;> simp [ApprovalRecord.rename, injective.eq_iff, hid]

theorem rename_replaceFirst (id : String) {put put' : ApprovalRecord → Chain}
    (h : ∀ r, put' (r.rename f) = (put r).rename f) :
    (c.rename f).replaceFirst (fun r => r.id == f id) put' =
      (c.replaceFirst (fun r => r.id == id) put).rename f := by
  induction c with
  | nil => rfl
  | cons r rest ih =>
    by_cases hid : r.id = id
    · have hfirst : (r.rename f).id = f id := congrArg f hid
      change replaceFirst _ put' (r.rename f :: rename f rest) = _
      simp only [replaceFirst, hid, hfirst, beq_self_eq_true, ↓reduceIte, h, rename_append]
    · have hfirst : (r.rename f).id ≠ f id := fun heq => hid (injective heq)
      change replaceFirst _ put' (r.rename f :: rename f rest) = _
      simp only [replaceFirst, beq_eq_false_iff_ne.mpr hid, beq_eq_false_iff_ne.mpr hfirst,
        Bool.false_eq_true, ↓reduceIte, ih]
      rfl

end Chain

/-! ## Starting a chain -/

section Start

variable {ρ : Renaming} {context : Context} {round : Int}

theorem Chain.levelRecords_renamed (index : Int) (level : ApprovalLevel) (reached : Bool)
    (time : Stamp) (position : Int) (approvers : List Approver) :
    Work.Renamed ρ (Chain.rename ρ.map)
      (levelRecords index level round reached time position approvers)
      (levelRecords index level round reached time position approvers) := by
  induction approvers generalizing position with
  | nil => exact Work.pure_renamed rfl
  | cons a rest ih =>
    unfold levelRecords
    refine Work.bind_renamed (Work.fresh_renamed .approval) fun id => ?_
    exact Work.bind_renamed (ih (position + 1)) fun later => Work.pure_renamed rfl

theorem Chain.levelsFrom_renamed (index : Int) (started : Bool) (levels : List ApprovalLevel) :
    Work.Renamed ρ (Chain.rename ρ.map) (levelsFrom context round index started levels)
      (levelsFrom context round index started levels) := by
  induction levels generalizing index started with
  | nil => exact Work.pure_renamed rfl
  | cons level rest ih =>
    unfold levelsFrom
    refine Work.lift_bind_renamed fun approvers => ?_
    refine Work.bind_renamed (levelRecords_renamed index level _ _ 0 _) fun records => ?_
    exact Work.bind_renamed (ih _ _) fun later => Work.pure_renamed (rename_append records later)

theorem ApprovalConfig.startChain_renamed (config : ApprovalConfig) :
    Work.Renamed ρ (Chain.rename ρ.map) (config.startChain context round)
      (config.startChain context round) := by
  refine Work.lift_bind_renamed fun required => Work.ite_renamed (fun _ => ?_) fun _ => ?_
  · exact Chain.levelsFrom_renamed 0 false config.levels
  · exact Work.pure_renamed rfl

end Start

/-! ## Escalating -/

namespace Chain

variable {ρ : Renaming} {c : Chain} {target : ApprovalRecord}

theorem rename_pendingOutcome (f : String → String) (c : Chain) (id : String)
    (cleared : List Int) :
    (c.rename f).pendingOutcome (f id) cleared = (c.pendingOutcome id cleared).rename f := by
  unfold pendingOutcome
  rw [nextApprovers_rename]
  rfl

theorem rename_reject (v : Verdict) :
    (c.rename ρ.map).reject (target.rename ρ.map) v = (c.reject target v).rename ρ.map := by
  have hwritten : (c.rename ρ.map).write (ρ.map target.id) .rejected v =
      (c.write target.id .rejected v).rename ρ.map :=
    rename_replaceFirst ρ.injective target.id fun _ => rfl
  unfold reject
  rw [show (target.rename ρ.map).id = ρ.map target.id from rfl, hwritten]
  refine congrArg (ApprovalOutcome.mk · .rejected (some (ρ.map target.id)) [] [])
    (rename_map (fun r => ?_) _)
  rw [apply_ite (ApprovalRecord.rename ρ.map)]
  rfl

theorem rename_handOver (fresh delegate : String) (v : Verdict) :
    (c.rename ρ.map).handOver (target.rename ρ.map) (ρ.map fresh) delegate v =
      (c.handOver target fresh delegate v).rename ρ.map := by
  unfold handOver
  rw [← rename_pendingOutcome]
  refine congrArg (pendingOutcome · (ρ.map target.id) []) ?_
  refine rename_replaceFirst ρ.injective target.id fun _ => ?_
  rfl

theorem decide_renamed (c : Chain) (id : String) {v : Verdict} (h : v.decision ≠ .approve) :
    Work.Renamed ρ (ApprovalOutcome.rename ρ.map) (c.decide id v)
      ((c.rename ρ.map).decide (ρ.map id) v) := by
  unfold decide
  rw [record?_rename ρ.injective]
  cases c.record? id with
  | none => exact Work.throw_renamed rfl
  | some target =>
    cases hdecision : v.decision with
    | approve => exact absurd hdecision h
    | reject => exact Work.pure_renamed (rename_reject v).symm
    | delegate =>
      have hdelegate : delegateOf? (target.rename ρ.map) v = delegateOf? target v := rfl
      simp only [Option.map_some, hdelegate]
      cases delegateOf? target v with
      | none => exact Work.throw_renamed rfl
      | some delegate =>
        refine Work.bind_renamed (Work.fresh_renamed .approval) fun fresh => ?_
        exact Work.pure_renamed (rename_handOver fresh delegate v).symm

theorem escalate_renamed (c : Chain) (status : Status) (e : Escalation) (time : Stamp) :
    Work.Renamed ρ (ApprovalOutcome.rename ρ.map) (c.escalate status e time)
      ((c.rename ρ.map).escalate status (e.rename ρ.map) time) := by
  have hmarked := rename_markEscalated (c := c) ρ.injective e.record
  unfold escalate
  rw [show (e.rename ρ.map).record = ρ.map e.record from rfl, hmarked,
    show (e.rename ρ.map).verdict? time = e.verdict? time from rfl]
  cases hverdict : e.verdict? time with
  | none =>
    refine Work.pure_renamed ?_
    rw [nextApprovers_rename]
    rfl
  | some v =>
    refine decide_renamed _ e.record fun happroves => ?_
    unfold Escalation.verdict? at hverdict
    cases hpolicy : e.policy with
    | notifyOnly => simp [hpolicy] at hverdict
    | delegate | autoReject =>
      simp only [hpolicy, Option.some.injEq] at hverdict
      subst hverdict
      cases happroves

end Chain

section Due

variable {settings : Settings} {now : Stamp}

theorem ApprovalRecord.escalation?_rename (f : String → String) (r : ApprovalRecord) :
    (r.rename f).escalation? settings now =
      (r.escalation? settings now).map (Option.map (·.rename f)) := by
  have hpending : (r.rename f).isPending = r.isPending := rfl
  have hescalated : (r.rename f).escalated = r.escalated := rfl
  have hlimit : (r.rename f).escalateAfter = r.escalateAfter := rfl
  have hsince : (r.rename f).requestedAt = r.requestedAt := rfl
  have hpolicy : (r.rename f).resolvePolicy settings = r.resolvePolicy settings := rfl
  unfold escalation?
  rw [hpending, hescalated, hlimit, hsince, hpolicy]
  split
  · rfl
  · cases r.escalateAfter with
    | none => rfl
    | some limit =>
      cases r.requestedAt with
      | none => rfl
      | some since =>
        dsimp only
        cases (since.hoursTo now).mapError Failure.span with
        | error f => rfl
        | ok waited =>
          rw [Work.except_ok_bind, Work.except_ok_bind]
          split
          · rfl
          · cases r.resolvePolicy settings <;> rfl

theorem Chain.escalations_rename (f : String → String) (c : Chain) :
    (c.rename f).escalations settings now =
      (c.escalations settings now).map (List.map (·.rename f)) := by
  induction c with
  | nil => rfl
  | cons r rest ih =>
    change escalations (r.rename f :: rename f rest) settings now = _
    unfold escalations
    rw [r.escalation?_rename f, ih]
    cases r.escalation? settings now with
    | error f => rfl
    | ok found =>
      cases escalations rest settings now with
      | error f => rfl
      | ok later => cases found <;> rfl

end Due

theorem Submission.escalate_renamed {ρ : Renaming} (s : Submission) (e : Escalation)
    (time : Stamp) :
    Work.Renamed ρ (ApprovalOutcome.rename ρ.map) (s.escalate e time)
      ((s.rename ρ.map).escalate (e.rename ρ.map) time) := by
  obtain ⟨_, _, _, _, state⟩ := s
  cases state with
  | none => exact Work.throw_renamed rfl
  | some state =>
    exact Work.ite_renamed (fun _ => Chain.escalate_renamed state.chain state.status e time)
      fun _ => Work.throw_renamed rfl

end Formwork
