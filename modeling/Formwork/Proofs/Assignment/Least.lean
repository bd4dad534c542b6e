import Formwork.Proofs.Assignment.Qualified
/-!
# The least loaded candidate

Every strategy but the rotation takes the candidate with the fewest open assignments, and of several
such the one with the least id. As all with the same count and the same id count alike, who is taken
depends on who qualifies and not on the order in which candidates are listed.
-/
namespace Formwork

namespace Load

variable {load : Load} {pool pool' : List Candidate} {a b c : Candidate}

/-- One candidate goes no later than another: by open assignments, and at the same number by id. Who
is not listed in the load has none. -/
def NoLater (load : Load) (a b : Candidate) : Prop :=
  (load.openAssignments.get? a.id).getD 0 < (load.openAssignments.get? b.id).getD 0 ∨
    (load.openAssignments.get? a.id).getD 0 = (load.openAssignments.get? b.id).getD 0 ∧ a.id ≤ b.id

theorem NoLater.refl (load : Load) (a : Candidate) : load.NoLater a a := .inr ⟨rfl, String.le_refl _⟩

theorem NoLater.trans (hab : load.NoLater a b) (hbc : load.NoLater b c) : load.NoLater a c := by
  rcases hab with hab | ⟨habOpen, habId⟩
  · rcases hbc with hbc | ⟨hbcOpen, -⟩
    · left; omega
    · left; omega
  · rcases hbc with hbc | ⟨hbcOpen, hbcId⟩
    · left; omega
    · exact .inr ⟨habOpen.trans hbcOpen, String.le_trans habId hbcId⟩

theorem NoLater.id_eq (hab : load.NoLater a b) (hba : load.NoLater b a) : a.id = b.id := by
  rcases hab with hab | ⟨habOpen, habId⟩
  · rcases hba with hba | ⟨hbaOpen, -⟩ <;> omega
  · rcases hba with hba | ⟨-, hbaId⟩
    · omega
    · exact String.le_antisymm habId hbaId

theorem before_eq_false_iff : load.before a b = false ↔ load.NoLater b a := by
  have hopen : ∀ id, load.openFor id = (load.openAssignments.get? id).getD 0 := fun _ => rfl
  simp only [before, NoLater, hopen, Bool.or_eq_false_iff, Bool.and_eq_false_iff,
    decide_eq_false_iff_not, beq_eq_false_iff_ne, String.not_lt]
  constructor
  · rintro ⟨hle, hne | hid⟩
    · left; omega
    · rcases Int.lt_or_eq_of_le (Int.not_lt.mp hle) with hlt | heq
      · exact .inl hlt
      · exact .inr ⟨heq, hid⟩
  · rintro (hlt | ⟨heq, hid⟩)
    · exact ⟨by omega, .inl (by omega)⟩
    · exact ⟨by omega, .inr hid⟩

theorem noLater_of_before (h : load.before a b = true) : load.NoLater a b := by
  simp only [before, Bool.or_eq_true, Bool.and_eq_true, decide_eq_true_eq, beq_iff_eq] at h
  rcases h with hlt | ⟨heq, hid⟩
  · exact .inl hlt
  · exact .inr ⟨heq, String.not_lt.mp (String.lt_asymm hid)⟩

theorem least?_eq_none_iff : load.least? pool = none ↔ pool = [] := by
  cases pool with
  | nil => simp [least?]
  | cons c rest =>
    simp only [least?, List.cons_ne_nil, iff_false]
    cases load.least? rest with
    | none => simp
    | some d => dsimp only; split <;> simp

/-- The chosen candidate is among the given ones, and goes later than none of them. -/
theorem least?_spec (h : load.least? pool = some c) : c ∈ pool ∧ ∀ d ∈ pool, load.NoLater c d := by
  induction pool generalizing c with
  | nil => simp [least?] at h
  | cons a rest ih =>
    simp only [least?] at h
    cases hrest : load.least? rest with
    | none =>
      rw [hrest, Option.some.injEq] at h
      have hnil : rest = [] := least?_eq_none_iff.mp hrest
      subst h hnil
      simp [NoLater.refl]
    | some d =>
      obtain ⟨hd, hleast⟩ := ih hrest
      rw [hrest] at h
      cases hbefore : load.before d a with
      | true =>
        simp only [hbefore, if_true, Option.some.injEq] at h
        subst h
        refine ⟨List.mem_cons_of_mem _ hd, ?_⟩
        rw [List.forall_mem_cons]
        exact ⟨noLater_of_before hbefore, hleast⟩
      | false =>
        simp only [hbefore, Bool.false_eq_true, if_false, Option.some.injEq] at h
        subst h
        have hda : load.NoLater a d := before_eq_false_iff.mp hbefore
        refine ⟨List.mem_cons_self, ?_⟩
        rw [List.forall_mem_cons]
        exact ⟨.refl load a, fun e he => hda.trans (hleast e he)⟩

theorem least?_id_congr (h : ∀ c, c ∈ pool ↔ c ∈ pool') :
    (load.least? pool).map (·.id) = (load.least? pool').map (·.id) := by
  cases hc : load.least? pool with
  | none =>
    have hempty : pool' = [] := by
      rw [least?_eq_none_iff.mp hc] at h
      exact List.eq_nil_iff_forall_not_mem.mpr fun c hmem => by simpa using (h c).mpr hmem
    rw [least?_eq_none_iff.mpr hempty]
  | some c =>
    obtain ⟨hmem, hleast⟩ := least?_spec hc
    cases hd : load.least? pool' with
    | none =>
      rw [least?_eq_none_iff.mp hd] at h
      exact absurd ((h c).mp hmem) (by simp)
    | some d =>
      obtain ⟨hmem', hleast'⟩ := least?_spec hd
      have hcd : load.NoLater c d := hleast d ((h d).mpr hmem')
      have hdc : load.NoLater d c := hleast' c ((h c).mp hmem)
      rw [Option.map_some, Option.map_some, hcd.id_eq hdc]

end Load

section Balanced

variable {strategy : Strategy} (balances : strategy ≠ .roundRobin) {candidates : List Candidate}
  {load : Load} {context : Context} {rule : Option AssignmentRule} {chosen : Assignment}

include balances

theorem assignee_eq_none_iff (h : assign candidates strategy load context rule = .ok chosen) :
    chosen.assignee = none ↔ ∀ c ∈ candidates, ¬ c.Qualifies strategy load context rule := by
  obtain ⟨pool, hpool, hchosen⟩ := assign_among balances candidates load context rule
  rw [hchosen chosen h, Load.least?_eq_none_iff, List.eq_nil_iff_forall_not_mem]
  simp only [hpool, not_and]

theorem assignee_least (h : assign candidates strategy load context rule = .ok chosen)
    {c : Candidate} (found : chosen.assignee = some c) :
    c ∈ candidates ∧ c.Qualifies strategy load context rule ∧
      ∀ d ∈ candidates, d.Qualifies strategy load context rule → load.NoLater c d := by
  obtain ⟨pool, hpool, hchosen⟩ := assign_among balances candidates load context rule
  rw [hchosen chosen h] at found
  obtain ⟨hmem, hleast⟩ := Load.least?_spec found
  obtain ⟨hlisted, hqualifies⟩ := (hpool c).mp hmem
  exact ⟨hlisted, hqualifies, fun d hd hdq => hleast d ((hpool d).mpr ⟨hd, hdq⟩)⟩

omit balances in
theorem Unwritten.of_perm {others : List Candidate} (perm : candidates.Perm others)
    (h : Unwritten candidates load context strategy rule) :
    Unwritten others load context strategy rule := by
  cases h with
  | skill asked long => exact .skill asked long
  | place long nobody => exact .place long fun c hc => nobody c (perm.mem_iff.mpr hc)

/-- Whose id is chosen depends on the members of the list alone, and so does whether the choice
fails. -/
theorem assignee_id_of_perm {others : List Candidate} (perm : candidates.Perm others) :
    (assign others strategy load context rule).map (fun chosen => chosen.assignee.map (·.id)) =
      (assign candidates strategy load context rule).map
        (fun chosen => chosen.assignee.map (·.id)) := by
  obtain ⟨pool, hpool, hchosen⟩ := assign_among balances candidates load context rule
  obtain ⟨pool', hpool', hchosen'⟩ := assign_among balances others load context rule
  cases hother : assign others strategy load context rule with
  | error f =>
    obtain ⟨rfl, unwritten⟩ := assign_eq_error_iff.mp hother
    rw [assign_eq_error_iff.mpr ⟨rfl, unwritten.of_perm perm.symm⟩]
  | ok chosen' =>
    cases hhere : assign candidates strategy load context rule with
    | error f =>
      obtain ⟨rfl, unwritten⟩ := assign_eq_error_iff.mp hhere
      rw [assign_eq_error_iff.mpr ⟨rfl, unwritten.of_perm perm⟩] at hother
      cases hother
    | ok chosen =>
      have hsame : (load.least? pool').map (·.id) = (load.least? pool).map (·.id) := by
        apply Load.least?_id_congr
        intro c
        rw [hpool, hpool', perm.mem_iff]
      simp only [Except.map, hchosen' chosen' hother, hchosen chosen hhere, hsame]

end Balanced

/-- The choice by load takes one of those who qualify, if there are any, and one whose number of open
assignments with the id behind it is the least among them. It fails only where a skill that is asked
for, or a place where nobody is, cannot be written. The order in which the candidates are listed has
no part in whose id it is. -/
theorem choice_least {strategy : Strategy} (balances : strategy ≠ .roundRobin)
    (candidates : List Candidate) (load : Load) (context : Context) (rule : Option AssignmentRule) :
    (∀ chosen, assign candidates strategy load context rule = .ok chosen →
      (∀ c, chosen.assignee = some c →
        c ∈ candidates ∧ c.Qualifies strategy load context rule ∧
          ∀ d ∈ candidates, d.Qualifies strategy load context rule → load.NoLater c d) ∧
      (chosen.assignee = none ↔
        ∀ c ∈ candidates, ¬ c.Qualifies strategy load context rule)) ∧
    (∀ f, assign candidates strategy load context rule = .error f ↔
      f = .tooManyDigits ∧ Unwritten candidates load context strategy rule) ∧
    ∀ others, candidates.Perm others →
      (assign others strategy load context rule).map (fun chosen => chosen.assignee.map (·.id)) =
        (assign candidates strategy load context rule).map
          (fun chosen => chosen.assignee.map (·.id)) :=
  ⟨fun _ h => ⟨fun _ => assignee_least balances h, assignee_eq_none_iff balances h⟩,
    fun _ => assign_eq_error_iff, fun _ => assignee_id_of_perm balances⟩

/-! Ann and Bob are in Rome, where Bob has less to do; Cat, who has nothing to do, is in Oslo. -/

namespace Offices

def sitting (id place : String) : Candidate := { id := id, attributes := [("site_id", .text place)] }

def ann : Candidate := sitting "ann" "Rome"

def bob : Candidate := sitting "bob" "Rome"

def cat : Candidate := sitting "cat" "Oslo"

def load : Load := { openAssignments := [("ann", 2), ("bob", 1)] }

def context : Context :=
  { Context.ofNow ⟨0, Calendar.zero_lt_microCount⟩ with data := [("site_id", .text "Rome")] }

def chosen : Assignment := { assignee := some bob, strategy := some .locationMatch }

theorem assign_eq : assign [ann, bob, cat] .locationMatch load context none = .ok chosen := by
  rfl

end Offices

open Offices in
/-- Bob is chosen for Rome, wherever he stands in the list, for Ann has more to do. -/
theorem choice_least_rome : Strategy.locationMatch ≠ .roundRobin ∧
    [ann, bob, cat].Perm [cat, ann, bob] ∧ load.NoLater bob ann ∧
    (assign [cat, ann, bob] .locationMatch load context none).map
      (fun chosen => chosen.assignee.map (·.id)) = .ok (some "bob") := by
  have balances : Strategy.locationMatch ≠ .roundRobin := by decide
  have hperm : [ann, bob, cat].Perm [cat, ann, bob] :=
    (List.perm_append_comm : ([ann, bob] ++ [cat]).Perm ([cat] ++ [ann, bob]))
  obtain ⟨hleast, -, hsame⟩ := choice_least balances [ann, bob, cat] load context none
  have hbob := ((hleast chosen assign_eq).1 bob rfl).2.2
  have hann : ann.Qualifies .locationMatch load context none :=
    ⟨⟨rfl, fun _ h => by cases h⟩, Candidate.suits_locationMatch_iff.mpr (.inr rfl)⟩
  refine ⟨balances, hperm, hbob ann (by simp) hann, ?_⟩
  rw [hsame _ hperm, assign_eq]
  rfl

end Formwork
