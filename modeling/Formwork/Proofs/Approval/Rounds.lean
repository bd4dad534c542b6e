import Formwork.Proofs.Approval.Lasting
/-!
# One round after another

The records of a new round are put behind those of the rounds before it. A decision is about one
record and those beside it, so what stands in front and belongs to other rounds is passed by: a
chain with earlier rounds moves just as its last round does alone.
-/
namespace Formwork.Chain

open Calendar

variable {a b c c' : Chain} {t : ApprovalRecord} {v : Verdict} {o : ApprovalOutcome}

theorem Distinct.of_append_right (h : Distinct (a ++ b)) : b.Distinct := by
  unfold Distinct at h ⊢
  rw [List.map_append] at h
  exact (List.nodup_append.mp h).2.1

/-! ## Passing by what stands in front -/

section Append

variable {test : ApprovalRecord → Bool}

theorem replaceFirst_append (h : ∀ r ∈ a, test r = false) (f : ApprovalRecord → Chain) :
    (a ++ b).replaceFirst test f = a ++ b.replaceFirst test f := by
  induction a with
  | nil => rfl
  | cons r rest ih =>
    have hrest := ih fun s hs => h s (List.mem_cons_of_mem _ hs)
    simp only [List.cons_append, replaceFirst, h r List.mem_cons_self, Bool.false_eq_true,
      ↓reduceIte, hrest]

theorem filter_append_of_none (h : ∀ r ∈ a, test r = false) :
    (a ++ b).filter test = b.filter test := by
  have hnil : a.filter test = [] := List.filter_eq_nil_iff.mpr fun r hr => by simp [h r hr]
  rw [List.filter_append, hnil, List.nil_append]

theorem any_append_of_none (h : ∀ r ∈ a, test r = false) : (a ++ b).any test = b.any test := by
  have hnone : a.any test = false := List.any_eq_false.mpr fun r hr => by simp [h r hr]
  rw [List.any_append, hnone, Bool.false_or]

theorem map_append_of_same {f : ApprovalRecord → ApprovalRecord} (h : ∀ r ∈ a, f r = r) :
    (a ++ b).map f = a ++ b.map f := by
  rw [List.map_append, List.map_congr_left h, List.map_id']

theorem openFirst_append (h : ∀ r ∈ a, test r = false) (time : Stamp) :
    (a ++ b).openFirst test time = a ++ b.openFirst test time := by
  unfold openFirst
  rw [filter_append_of_none h]
  split
  · rfl
  · apply replaceFirst_append
    intro r hr
    simp [h r hr]

theorem openAll_append (h : ∀ r ∈ a, test r = false) (time : Stamp) :
    (a ++ b).openAll test time = a ++ b.openAll test time := by
  apply map_append_of_same
  intro r hr
  simp [h r hr]

end Append

section Earlier

variable (hids : ∀ r ∈ a, r.id ≠ t.id) (hrounds : ∀ r ∈ a, r.round ≠ t.round)

include hids in
theorem write_append (status : ApprovalStatus) (v : Verdict) :
    (a ++ b).write t.id status v = a ++ b.write t.id status v :=
  replaceFirst_append (fun r hr => by simp [hids r hr]) _

include hids in
theorem markEscalated_append : (a ++ b).markEscalated t.id = a ++ b.markEscalated t.id :=
  map_append_of_same fun r hr => by simp [hids r hr]

include hrounds in
theorem not_isBeside_of_earlier : ∀ r ∈ a, r.isBeside t = false := by
  intro r hr
  simp [ApprovalRecord.isBeside, hrounds r hr]

include hrounds in
theorem not_waitsBehind_of_earlier : ∀ r ∈ a, r.waitsBehind t = false := by
  intro r hr
  simp [ApprovalRecord.waitsBehind, hrounds r hr]

include hrounds in
theorem advance_append (time : Stamp) :
    (a ++ b).advance t time = (a ++ (b.advance t time).1, (b.advance t time).2) := by
  have hbeside := not_isBeside_of_earlier hrounds
  unfold advance
  cases t.kind with
  | anyOf =>
    have hsettled : (a ++ b).settle t time = a ++ b.settle t time := by
      rw [settle_eq_map, settle_eq_map]
      apply map_append_of_same
      intro r hr
      exact ApprovalRecord.superseded_of_not_beside (by simp [hbeside r hr])
    simp only [hsettled]
  | sequential =>
    have hwaits : ∀ r ∈ a, (r.isBeside t && r.isWaiting) = false := by
      intro r hr
      simp [hbeside r hr]
    have hpending : ∀ r ∈ a, (r.isBeside t && r.isPending) = false := by
      intro r hr
      simp [hbeside r hr]
    simp only [any_append_of_none hwaits, any_append_of_none hpending, openFirst_append hwaits]
    split <;> rfl
  | parallel =>
    have hopen : ∀ r ∈ a, (r.isBeside t && r.status.isOpen) = false := by
      intro r hr
      simp [hbeside r hr]
    simp only [any_append_of_none hopen]

include hrounds in
theorem openNext?_append (time : Stamp) :
    (a ++ b).openNext? t time = (b.openNext? t time).map (a ++ ·) := by
  have hwaits := not_waitsBehind_of_earlier hrounds
  have hlater : (a ++ b).filter (fun r => r.waitsBehind t) = b.filter fun r => r.waitsBehind t :=
    filter_append_of_none hwaits
  unfold openNext?
  dsimp only
  rw [hlater]
  split
  · rfl
  · rename_i first rest _
    have hnext : ∀ r ∈ a, (r.waitsBehind t && r.level == first.level) = false := by
      intro r hr
      simp [hwaits r hr]
    simp only [openFirst_append hnext, openAll_append hnext, Option.map_some]
    split <;> rfl

include hids hrounds

theorem approve_append (v : Verdict) :
    ((a ++ b).approve t v).chain = a ++ (b.approve t v).chain ∧
      ((a ++ b).approve t v).status = (b.approve t v).status := by
  unfold approve
  rw [write_append hids, advance_append hrounds]
  dsimp only
  split
  · rw [openNext?_append hrounds]
    cases (((b.write t.id .approved v).advance t v.time).1.openNext? t v.time) with
    | none => exact ⟨rfl, rfl⟩
    | some next => exact ⟨rfl, rfl⟩
  · exact ⟨rfl, rfl⟩

theorem Decides.of_append (h : (a ++ b).Decides t v o) :
    ∃ o', b.Decides t v o' ∧ o.chain = a ++ o'.chain ∧ o.status = o'.status := by
  cases h with
  | approve hv =>
    obtain ⟨hchain, hstatus⟩ := approve_append (b := b) hids hrounds v
    exact ⟨b.approve t v, .approve hv, hchain, hstatus⟩
  | reject hv =>
    refine ⟨b.reject t v, .reject hv, ?_, rfl⟩
    rw [reject_eq_map, reject_eq_map, write_append hids]
    apply map_append_of_same
    intro r hr
    simp [ApprovalRecord.dropped, hrounds r hr]
  | @handOver delegate id hv given =>
    refine ⟨b.handOver t id delegate v, .handOver id hv given, ?_, rfl⟩
    exact replaceFirst_append (fun r hr => by simp [hids r hr]) _

theorem Does.of_append {move : Move} (h : (a ++ b).Does t move o) :
    ∃ o', b.Does t move o' ∧ o.chain = a ++ o'.chain ∧ o.status = o'.status := by
  cases h with
  | decision admitted decides =>
    obtain ⟨o', hdecides, hchain, hstatus⟩ := decides.of_append hids hrounds
    exact ⟨o', .decision admitted hdecides, hchain, hstatus⟩
  | escalation other decides =>
    rw [markEscalated_append hids] at decides
    obtain ⟨o', hdecides, hchain, hstatus⟩ :=
      Decides.of_append (t := t.marked) hids hrounds decides
    exact ⟨o', .escalation other hdecides, hchain, hstatus⟩
  | notice inChain inStatus =>
    rw [markEscalated_append hids] at inChain
    exact ⟨⟨b.markEscalated t.id, .pendingApproval, none, [], []⟩, .notice rfl rfl, inChain,
      inStatus⟩

end Earlier

end Formwork.Chain
