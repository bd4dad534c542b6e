import Mathlib.Data.List.Rotate
import Formwork.Proofs.Assignment.Qualified
/-!
# Rotation

A rotation goes on behind the candidate whose turn it was last, around the end of the list, to the
next one who goes by the id of somebody eligible. The indices that can have a turn, in the order in
which they come up, are a list; each assignment goes to its head and moves that to the end. So as many
assignments as there are such indices serve each of them once, whatever index was kept before, and
then the same order begins again.
-/
namespace Formwork

/-! ## Around a list -/

@[simp] theorem length_indicesFrom (start length : Nat) :
    (indicesFrom start length).length = length := by
  simp [indicesFrom]

theorem getElem_indicesFrom {start length j : Nat} (h : j < (indicesFrom start length).length) :
    (indicesFrom start length)[j] = (start + j) % length := by
  simp [indicesFrom]

theorem indicesFrom_mod (start length : Nat) :
    indicesFrom (start % length) length = indicesFrom start length := by
  simp [indicesFrom]

theorem rotate_indicesFrom (start length k : Nat) :
    (indicesFrom start length).rotate k = indicesFrom (start + k) length := by
  apply List.ext_getElem
  · simp
  · intro j hj hj'
    rw [List.getElem_rotate, getElem_indicesFrom, getElem_indicesFrom, length_indicesFrom,
      Nat.add_mod_mod, Nat.add_assoc, Nat.add_comm j k]

theorem indicesFrom_perm_range (start length : Nat) :
    (indicesFrom start length).Perm (List.range length) := by
  have hzero : indicesFrom 0 length = List.range length := by
    apply List.ext_getElem
    · simp
    · intro j hj hj'
      rw [getElem_indicesFrom, List.getElem_range, Nat.zero_add]
      exact Nat.mod_eq_of_lt (by simpa using hj)
  have hrotate := rotate_indicesFrom 0 length start
  rw [Nat.zero_add, hzero] at hrotate
  rw [← hrotate]
  exact List.rotate_perm _ _

/-- Behind an index come those that came behind it and then those that came in front. -/
theorem indicesFrom_succ {start length i : Nat} {front back : List Nat}
    (h : indicesFrom start length = front ++ i :: back) :
    indicesFrom ((i + 1) % length) length = back ++ (front ++ [i]) := by
  have hlen : front.length < (indicesFrom start length).length := by simp [h]
  have hi : i = (start + front.length) % length := by
    rw [← getElem_indicesFrom hlen]
    simp [h]
  calc indicesFrom ((i + 1) % length) length
      = indicesFrom (start + (front.length + 1)) length := by
        rw [hi, Nat.mod_add_mod, Nat.add_assoc, indicesFrom_mod]
    _ = (front ++ i :: back).rotate (front.length + 1) := by rw [← rotate_indicesFrom, h]
    _ = ((front ++ [i]) ++ back).rotate (front ++ [i]).length := by simp
    _ = back ++ (front ++ [i]) := List.rotate_append_length_eq _ _

/-! ## Turns -/

/-- The candidate at an index goes by the id of somebody eligible. -/
def HasTurn (candidates : List Candidate) (load : Load) (limit : Option Int) (i : Nat) : Prop :=
  ∃ c, candidates[i]? = some c ∧ ∃ e ∈ candidates, e.Eligible load limit ∧ e.id = c.id

/-- The test for a turn among the eligible candidates. -/
def goes (candidates eligible : List Candidate) (i : Nat) : Bool :=
  candidates[i]?.any fun c => eligible.any fun e => e.id == c.id

namespace Load

/-- The candidates who are eligible under the limit of a rule. -/
def eligible (load : Load) (candidates : List Candidate) (rule : Option AssignmentRule) :
    List Candidate :=
  candidates.filter fun c => load.admits c (rule.bind (·.maxOpen))

/-- The indices that can have a turn, in the order in which they come up. -/
def turns (load : Load) (candidates : List Candidate) (rule : Option AssignmentRule) : List Nat :=
  (indicesFrom (load.startIn (rule.map (·.id)) candidates.length) candidates.length).filter
    (goes candidates (load.eligible candidates rule))

/-- The load with the turn of an assignment kept for the next one. -/
def keep (load : Load) (rule : Option AssignmentRule) (a : Assignment) : Load :=
  match a.nextIndex with
  | none => load
  | some i =>
    { load with lastIndices := load.lastIndices.insert (rotationKey (rule.map (·.id))) i }

end Load

/-- The assignment to the candidate at an index. -/
def turnOf (candidates : List Candidate) (rule : Option AssignmentRule) (i : Nat) : Assignment :=
  { assignee := candidates[i]?, strategy := some .roundRobin, rule := rule.map (·.id),
    nextIndex := some i }

/-- The answer that it is nobody's turn. -/
def noTurn (rule : Option AssignmentRule) : Assignment :=
  { Assignment.nobody .nobodyEligible with strategy := some .roundRobin, rule := rule.map (·.id) }

/-- Assignments one after another, each with the turn of the one before it. -/
def assignments (candidates : List Candidate) (context : Context) (rule : Option AssignmentRule) :
    Nat → Load → Except Failure (List Assignment)
  | 0, _ => .ok []
  | n + 1, load => do
    let a ← assign candidates .roundRobin load context rule
    pure (a :: (← assignments candidates context rule n (load.keep rule a)))

section Turns

variable {candidates eligible : List Candidate} {load : Load} {context : Context}
  {rule : Option AssignmentRule} {i : Nat}

theorem nodup_turns : (load.turns candidates rule).Nodup :=
  ((indicesFrom_perm_range _ _).nodup_iff.mpr List.nodup_range).filter _

theorem goes_iff : goes candidates (load.eligible candidates rule) i = true ↔
    HasTurn candidates load (rule.bind (·.maxOpen)) i := by
  simp only [goes, HasTurn, Load.eligible, Option.any_eq_true, List.any_eq_true, List.mem_filter,
    Load.admits_iff, beq_iff_eq, and_assoc]

theorem mem_turns_iff :
    i ∈ load.turns candidates rule ↔ HasTurn candidates load (rule.bind (·.maxOpen)) i := by
  rw [Load.turns, List.mem_filter, goes_iff, (indicesFrom_perm_range _ _).mem_iff, List.mem_range,
    and_iff_right_iff_imp]
  rintro ⟨c, hc, -⟩
  exact (List.getElem?_eq_some_iff.mp hc).1

theorem findSome?_goes (indices : List Nat) :
    (indices.findSome? fun i => candidates[i]?.bind fun c =>
      if eligible.any fun e => e.id == c.id then some (i, c) else none) =
      (indices.filter (goes candidates eligible)).head?.bind fun i => candidates[i]?.map (i, ·) := by
  induction indices with
  | nil => rfl
  | cons i rest ih =>
    rw [List.findSome?_cons, List.filter_cons, ih]
    cases hc : candidates[i]? with
    | none => simp [goes, hc]
    | some c =>
      have hgoes : goes candidates eligible i = eligible.any fun e => e.id == c.id := by
        simp [goes, hc]
      rw [hgoes, Option.bind_some]
      cases eligible.any fun e => e.id == c.id with
      | true => simp [hc]
      | false => rfl

theorem turns_eq_nil_iff : load.turns candidates rule = [] ↔
    ∀ c ∈ candidates, ¬ c.Eligible load (rule.bind (·.maxOpen)) := by
  rw [List.eq_nil_iff_forall_not_mem]
  simp only [mem_turns_iff]
  constructor
  · intro h c hc eligible
    obtain ⟨i, hi, hci⟩ := List.mem_iff_getElem.mp hc
    exact h i ⟨c, List.getElem?_eq_some_iff.mpr ⟨hi, hci⟩, c, hc, eligible, rfl⟩
  · rintro nobody i ⟨-, -, e, hmem, eligible, -⟩
    exact nobody e hmem eligible

theorem rotate_eq (candidates : List Candidate) (load : Load) (rule : Option AssignmentRule) :
    rotate candidates (load.eligible candidates rule) load (rule.map (·.id)) =
      (load.turns candidates rule).head?.elim (.nobody .nobodyEligible)
        fun i => { assignee := candidates[i]?, nextIndex := some i } := by
  unfold rotate
  split
  · rename_i hnobody
    have hnil : load.turns candidates rule = [] := by
      simp [Load.turns, goes, List.isEmpty_iff.mp hnobody]
    rw [hnil]
    rfl
  · dsimp only
    rw [findSome?_goes, ← Load.turns]
    cases hhead : (load.turns candidates rule).head? with
    | none => rfl
    | some i =>
      obtain ⟨c, hc, -⟩ := mem_turns_iff.mp (List.mem_of_mem_head? hhead)
      simp [hc]

/-! ## One assignment -/

theorem assign_roundRobin (context : Context) :
    assign candidates .roundRobin load context rule =
      .ok ((load.turns candidates rule).head?.elim (noTurn rule) (turnOf candidates rule)) := by
  have hrotate := rotate_eq candidates load rule
  unfold Load.eligible at hrotate
  unfold assign
  dsimp only
  rw [hrotate]
  cases (load.turns candidates rule).head? <;> rfl

theorem assign_of_turns {rest : List Nat} (h : load.turns candidates rule = i :: rest) :
    assign candidates .roundRobin load context rule = .ok (turnOf candidates rule i) := by
  rw [assign_roundRobin, h]
  rfl

theorem assign_of_no_turns (h : load.turns candidates rule = []) :
    assign candidates .roundRobin load context rule = .ok (noTurn rule) := by
  rw [assign_roundRobin, h]
  rfl

theorem rotated_eq_none_iff {chosen : Assignment}
    (h : assign candidates .roundRobin load context rule = .ok chosen) :
    chosen.assignee = none ↔ ∀ c ∈ candidates, ¬ c.Eligible load (rule.bind (·.maxOpen)) := by
  rw [← turns_eq_nil_iff]
  cases hturns : load.turns candidates rule with
  | nil =>
    rw [assign_of_no_turns hturns] at h
    obtain rfl := Except.ok.inj h
    exact iff_of_true rfl rfl
  | cons i rest =>
    obtain ⟨c, hc, -⟩ := mem_turns_iff.mp (show i ∈ load.turns candidates rule by simp [hturns])
    rw [assign_of_turns hturns] at h
    obtain rfl := Except.ok.inj h
    simp [turnOf, hc]

theorem startIn_keep (length : Nat) :
    (load.keep rule (turnOf candidates rule i)).startIn (rule.map (·.id)) length =
      (i + 1) % length := by
  have hkept : (load.keep rule (turnOf candidates rule i)).lastIndices.get?
      (rotationKey (rule.map (·.id))) = some (i : Int) := Entries.get?_insert_self _ _ _
  unfold Load.startIn
  rw [hkept]
  dsimp only
  norm_cast

theorem turns_keep {rest : List Nat} (h : load.turns candidates rule = i :: rest) :
    (load.keep rule (turnOf candidates rule i)).turns candidates rule = rest ++ [i] := by
  unfold Load.turns at h
  obtain ⟨front, back, hsplit, hfront, hi, hback⟩ := List.filter_eq_cons_iff.mp h
  have hnone : front.filter (goes candidates (load.eligible candidates rule)) = [] :=
    List.filter_eq_nil_iff.mpr hfront
  unfold Load.turns
  rw [startIn_keep, indicesFrom_succ hsplit]
  -- a kept turn changes nothing in the open assignments, so the same candidates are eligible
  change (back ++ (front ++ [i])).filter (goes candidates (load.eligible candidates rule)) = _
  rw [List.filter_append, List.filter_append, hback, hnone, List.nil_append,
    List.filter_cons_of_pos hi, List.filter_nil]

/-! ## One after another -/

/-- As many assignments as there are indices at the front of the order serve these, and leave them to
come up last. -/
theorem assignments_turns (context : Context) {served waiting : List Nat}
    (h : load.turns candidates rule = served ++ waiting) :
    ∃ after : Load, after.turns candidates rule = waiting ++ served ∧
      ∀ k, assignments candidates context rule (served.length + k) load = (do
        pure (served.map (turnOf candidates rule) ++
          (← assignments candidates context rule k after))) := by
  induction served generalizing load waiting with
  | nil => exact ⟨load, by simpa using h, fun k => by simp⟩
  | cons i rest ih =>
    rw [List.cons_append] at h
    have hnext : (load.keep rule (turnOf candidates rule i)).turns candidates rule =
        rest ++ (waiting ++ [i]) := by
      rw [turns_keep h, List.append_assoc]
    obtain ⟨after, hafter, hrun⟩ := ih hnext
    refine ⟨after, by simpa using hafter, fun k => ?_⟩
    rw [List.length_cons, Nat.succ_add, assignments, assign_of_turns h, Work.except_ok_bind, hrun]
    simp

end Turns

/-- A rotation is fair. As many assignments in a row as there are indices that can have a turn go to
each of these once, wherever the last turn was kept, and as many again go to them in the same order.
Where nobody is eligible, the answer says so, also for an empty list. -/
theorem rotation_fair (candidates : List Candidate) (load : Load) (context : Context)
    (rule : Option AssignmentRule) :
    (∃ picks : List Nat, picks.Nodup ∧
      (∀ i, i ∈ picks ↔ HasTurn candidates load (rule.bind (·.maxOpen)) i) ∧
      assignments candidates context rule picks.length load =
        .ok (picks.map (turnOf candidates rule)) ∧
      assignments candidates context rule (picks.length + picks.length) load =
        .ok (picks.map (turnOf candidates rule) ++ picks.map (turnOf candidates rule))) ∧
    ((∀ c ∈ candidates, ¬ c.Eligible load (rule.bind (·.maxOpen))) →
      assign candidates .roundRobin load context rule =
        .ok { assignee := none, strategy := some .roundRobin, rule := rule.map (·.id),
              nextIndex := none, reason := some "no eligible candidates" }) := by
  constructor
  · have hall : load.turns candidates rule = load.turns candidates rule ++ [] := by simp
    obtain ⟨after, hafter, hrun⟩ := assignments_turns context hall
    rw [List.nil_append] at hafter
    obtain ⟨again, -, hagain⟩ := assignments_turns context
      (hafter.trans (List.append_nil _).symm)
    refine ⟨load.turns candidates rule, nodup_turns, fun i => mem_turns_iff, ?_, ?_⟩
    · simpa [assignments, pure, Except.pure, bind, Except.bind] using hrun 0
    · have htwice := hagain 0
      rw [Nat.add_zero] at htwice
      rw [hrun, htwice, assignments]
      simp [pure, Except.pure, bind, Except.bind]
  · intro nobody
    exact assign_of_no_turns (turns_eq_nil_iff.mpr nobody)

/-! Ann and Cat have the duty in turns, Bob is away, and a turn was kept of a list that was longer. -/

namespace Duty

def ann : Candidate := { id := "ann" }

def bob : Candidate := { id := "bob", available := false }

def cat : Candidate := { id := "cat" }

def rule : AssignmentRule :=
  { id := "duty", strategy := .roundRobin, candidates := [ann, bob, cat] }

def load : Load := { lastIndices := [("duty", 9)] }

def context : Context := .ofNow ⟨0, Calendar.zero_lt_microCount⟩

example : (assignments [ann, bob, cat] context (some rule) 4 load).map (List.map (·.nextIndex)) =
    .ok [some 2, some 0, some 2, some 0] := rfl

end Duty

open Duty in
/-- Each of those who are there has the duty once before it comes round, and Bob alone never. -/
theorem rotation_fair_duty :
    (∃ picks : List Nat, picks.Nodup ∧
      (∀ i, i ∈ picks ↔ HasTurn [ann, bob, cat] load none i) ∧
      assignments [ann, bob, cat] context (some rule) (picks.length + picks.length) load =
        .ok (picks.map (turnOf [ann, bob, cat] (some rule)) ++
          picks.map (turnOf [ann, bob, cat] (some rule)))) ∧
    (∀ c ∈ [bob], ¬ c.Eligible load none) ∧
    (assign [bob] .roundRobin load context (some rule)).map (·.assignee) = .ok none := by
  have nobody : ∀ c ∈ [bob], ¬ c.Eligible load none := by
    intro c hc eligible
    rw [List.mem_singleton.mp hc] at eligible
    cases eligible.available
  obtain ⟨picks, hnodup, hmem, -, htwice⟩ :=
    (rotation_fair [ann, bob, cat] load context (some rule)).1
  refine ⟨⟨picks, hnodup, hmem, htwice⟩, nobody, ?_⟩
  rw [(rotation_fair [bob] load context (some rule)).2 nobody]
  rfl

end Formwork
