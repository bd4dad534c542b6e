import Formwork.Proofs.Assignment.Least
import Formwork.Proofs.Assignment.Rotation
/-!
# Who is chosen

Whoever is chosen is listed, below the limit and suits the strategy, and nobody is chosen only where
nobody qualifies. The choice by load looks at each entry of the list; the rotation goes by the ids of
those who are eligible. So where two entries have one id and one of them is not available, the turn
can fall to that entry, and this is the only way in which somebody is chosen who does not qualify.
-/
namespace Formwork

section RoundRobin

variable {candidates : List Candidate} {load : Load} {context : Context}
  {rule : Option AssignmentRule} {i : Nat} {chosen : Assignment}

theorem hasTurn_of_rotated {c : Candidate}
    (h : assign candidates .roundRobin load context rule = .ok chosen)
    (found : chosen.assignee = some c) :
    ∃ i, candidates[i]? = some c ∧ HasTurn candidates load (rule.bind (·.maxOpen)) i := by
  cases hturns : load.turns candidates rule with
  | nil =>
    rw [assign_of_no_turns hturns] at h
    obtain rfl := Except.ok.inj h
    cases found
  | cons i rest =>
    rw [assign_of_turns hturns] at h
    obtain rfl := Except.ok.inj h
    exact ⟨i, found, mem_turns_iff.mp (by simp [hturns])⟩

theorem assign_at_start (start : load.startIn (rule.map (·.id)) candidates.length = i)
    (turn : HasTurn candidates load (rule.bind (·.maxOpen)) i) :
    assign candidates .roundRobin load context rule = .ok (turnOf candidates rule i) := by
  obtain ⟨c, hc, -⟩ := id turn
  have hi : i < candidates.length := (List.getElem?_eq_some_iff.mp hc).1
  obtain ⟨n, hn⟩ : ∃ n, candidates.length = n + 1 := ⟨candidates.length - 1, by omega⟩
  have hfirst : indicesFrom i (n + 1) =
      i :: (List.range n).map fun offset => (i + (offset + 1)) % (n + 1) := by
    unfold indicesFrom
    rw [List.range_succ_eq_map, List.map_cons, List.map_map, Nat.add_zero,
      Nat.mod_eq_of_lt (hn ▸ hi)]
    rfl
  have hturns : ∃ rest, load.turns candidates rule = i :: rest := by
    unfold Load.turns
    rw [start, hn, hfirst, List.filter_cons_of_pos (goes_iff.mpr turn)]
    exact ⟨_, rfl⟩
  obtain ⟨rest, hrest⟩ := hturns
  exact assign_of_turns hrest

theorem eligible_turns_iff {c : Candidate} {turns : Entries Int} {limit : Option Int} :
    c.Eligible { load with lastIndices := turns } limit ↔ c.Eligible load limit :=
  ⟨fun h => ⟨h.available, h.below⟩, fun h => ⟨h.available, h.below⟩⟩

theorem exists_assign (context : Context)
    (turn : HasTurn candidates load (rule.bind (·.maxOpen)) i) :
    ∃ turns, assign candidates .roundRobin { load with lastIndices := turns } context rule =
      .ok (turnOf candidates rule i) := by
  let before : Load := { load with lastIndices := [(rotationKey (rule.map (·.id)), (i : Int) - 1)] }
  obtain ⟨c, hc, e, he, eligible, hid⟩ := turn
  have hi : i < candidates.length := (List.getElem?_eq_some_iff.mp hc).1
  have hstart : before.startIn (rule.map (·.id)) candidates.length = i := by
    have hlast : before.lastIndices.get? (rotationKey (rule.map (·.id))) = some ((i : Int) - 1) := by
      simp [before, Entries.get?]
    unfold Load.startIn
    rw [hlast]
    dsimp only
    rw [Int.sub_add_cancel, ← Int.natCast_emod, Int.toNat_natCast, Nat.mod_eq_of_lt hi]
  exact ⟨_, assign_at_start hstart ⟨c, hc, e, he, eligible_turns_iff.mpr eligible, hid⟩⟩

end RoundRobin

section Chosen

variable {candidates : List Candidate} {strategy : Strategy} {load : Load} {context : Context}
  {rule : Option AssignmentRule} {chosen : Assignment}

/-- Whoever is chosen shares an id with somebody who qualifies, and is available but for a turn. -/
theorem chosen_among (h : assign candidates strategy load context rule = .ok chosen) {c : Candidate}
    (found : chosen.assignee = some c) :
    c ∈ candidates ∧
      (∀ most, rule.bind (·.maxOpen) = some most → load.openFor c.id < most) ∧
      c.Suits strategy context rule ∧
      (strategy ≠ .roundRobin → c.available = true) ∧
      ∃ e ∈ candidates, e.Qualifies strategy load context rule ∧ e.id = c.id := by
  by_cases hrotates : strategy = .roundRobin
  · subst hrotates
    obtain ⟨i, hi, d, hd, e, he, eligible, hid⟩ := hasTurn_of_rotated h found
    obtain rfl : c = d := Option.some.inj (hi.symm.trans hd)
    refine ⟨List.mem_of_getElem? hi, ?_, trivial, fun other => absurd rfl other, e, he,
      ⟨eligible, trivial⟩, hid⟩
    intro most hmost
    exact hid ▸ eligible.below most hmost
  · obtain ⟨hmem, hqualifies, -⟩ := assignee_least hrotates h found
    exact ⟨hmem, hqualifies.eligible.below, hqualifies.suits,
      fun _ => hqualifies.eligible.available, c, hmem, hqualifies, rfl⟩

theorem nobody_chosen_iff (h : assign candidates strategy load context rule = .ok chosen) :
    chosen.assignee = none ↔ ∀ c ∈ candidates, ¬ c.Qualifies strategy load context rule := by
  by_cases hrotates : strategy = .roundRobin
  · subst hrotates
    rw [rotated_eq_none_iff h]
    exact forall₂_congr fun c _ => not_congr ⟨fun h => ⟨h, trivial⟩, fun h => h.eligible⟩
  · exact assignee_eq_none_iff hrotates h

end Chosen

/-- Whoever is chosen is a listed entry below the limit that suits the strategy, and is available
unless it is the turn of somebody who only shares the id with an entry that qualifies. Nobody is chosen
exactly if nobody qualifies. Wherever a turn was kept, whoever is chosen qualifies, exactly if the
strategy is no rotation or no entry that is not available shares its id with an eligible one. -/
theorem chosen_outcome (candidates : List Candidate) (strategy : Strategy) (load : Load)
    (context : Context) (rule : Option AssignmentRule) :
    (∀ chosen, assign candidates strategy load context rule = .ok chosen →
      (∀ c, chosen.assignee = some c →
        c ∈ candidates ∧
        (∀ most, rule.bind (·.maxOpen) = some most → load.openFor c.id < most) ∧
        c.Suits strategy context rule ∧
        (strategy ≠ .roundRobin → c.available = true) ∧
        ∃ e ∈ candidates, e.Qualifies strategy load context rule ∧ e.id = c.id) ∧
      (chosen.assignee = none ↔
        ∀ c ∈ candidates, ¬ c.Qualifies strategy load context rule)) ∧
    ((∀ turns chosen c, assign candidates strategy { load with lastIndices := turns } context
        rule = .ok chosen → chosen.assignee = some c → c.Qualifies strategy load context rule) ↔
      (strategy = .roundRobin → ∀ c ∈ candidates, ∀ e ∈ candidates, c.id = e.id →
        e.Eligible load (rule.bind (·.maxOpen)) → c.available = true)) := by
  refine ⟨fun chosen h => ⟨fun c => chosen_among h, nobody_chosen_iff h⟩, ?_, ?_⟩
  · rintro hall rfl c hc e he hid eligible
    obtain ⟨i, hi, hci⟩ := List.mem_iff_getElem.mp hc
    have hget : candidates[i]? = some c := List.getElem?_eq_some_iff.mpr ⟨hi, hci⟩
    have hturn : HasTurn candidates load (rule.bind (·.maxOpen)) i :=
      ⟨c, hget, e, he, eligible, hid.symm⟩
    obtain ⟨turns, hturns⟩ := exists_assign context hturn
    exact (hall turns _ c hturns hget).eligible.available
  · intro hnone turns chosen c h found
    obtain ⟨hmem, hbelow, hsuits, hothers, e, he, hqualifies, hid⟩ := chosen_among h found
    have hidle : e.Eligible load (rule.bind (·.maxOpen)) :=
      eligible_turns_iff.mp hqualifies.eligible
    have havailable : c.available = true := by
      by_cases hrotates : strategy = .roundRobin
      · exact hnone hrotates c hmem e he hid.symm hidle
      · exact hothers hrotates
    exact ⟨⟨havailable, hbelow⟩, hsuits⟩

/-! Ann is listed twice, and the first entry is of the time when she is away. -/

namespace Twice

def away : Candidate := { id := "ann", available := false }

def back : Candidate := { id := "ann" }

def context : Context := .ofNow ⟨0, Calendar.zero_lt_microCount⟩

def chosen : Assignment :=
  { assignee := some away, strategy := some .roundRobin, nextIndex := some 0 }

theorem assign_eq : assign [away, back] .roundRobin {} context none = .ok chosen := rfl

end Twice

open Twice in
/-- The entry that is chosen shares the id with one that qualifies. -/
theorem chosen_outcome_away :
    assign [away, back] .roundRobin {} context none = .ok chosen ∧
      chosen.assignee = some away ∧
    ∃ e ∈ [away, back], e.Qualifies .roundRobin {} context none ∧ e.id = "ann" := by
  obtain ⟨-, -, -, -, e, he, hqualifies, hid⟩ :=
    ((chosen_outcome [away, back] .roundRobin {} context none).1 chosen assign_eq).1 away rfl
  exact ⟨assign_eq, rfl, e, he, hqualifies, hid⟩

open Twice in
/-- Somebody who is not available can be chosen. -/
theorem not_always_qualified :
    ¬ ∀ (candidates : List Candidate) (strategy : Strategy) (load : Load) (context : Context)
      (rule : Option AssignmentRule) (chosen : Assignment),
      assign candidates strategy load context rule = .ok chosen →
      (∀ c, chosen.assignee = some c →
        c ∈ candidates ∧ c.Qualifies strategy load context rule) ∧
      (chosen.assignee = none →
        ∀ c ∈ candidates, ¬ c.Qualifies strategy load context rule) := by
  intro always
  have hqualifies :=
    ((always [away, back] .roundRobin {} context none chosen assign_eq).1 away rfl).2
  cases hqualifies.eligible.available

end Formwork
