import Formwork.Proofs.Assignment.Qualified
/-!
# The first productive rule

Of a list of rules those that are on are tried by ascending priority, at one priority in the order in
which they are listed, and the first that applies and finds somebody is taken. To sort them and to
look for the first is the same as to go through the list as it stands and to let a later rule go
before an earlier one only if its priority is smaller. So a rule that brings nothing about has no
part in the choice, wherever it stands. A rule that fails where it looks for somebody ends the search
as one does that finds somebody, and the choice fails with it.
-/
namespace Formwork

namespace AssignmentRule

variable {load : Load} {context : Context} {rules more : List AssignmentRule} {r s : AssignmentRule}

/-! ## Productive rules -/

/-- A rule brings an assignment about: it is on, it applies, and it does not come back without
anybody. -/
structure Productive (r : AssignmentRule) (load : Load) (context : Context) : Prop where
  active : r.active = true
  applies : Group.holds? r.appliesWhen context = .ok true
  finds : ∀ chosen, r.assign load context = .ok chosen → chosen.assignee ≠ none

/-- A rule is off, does not apply, or finds nobody. -/
inductive Unproductive (r : AssignmentRule) (load : Load) (context : Context) : Prop
  | off (inactive : r.active = false)
  | idle (inapplicable : Group.holds? r.appliesWhen context = .ok false)
  | empty {chosen : Assignment} (answer : r.assign load context = .ok chosen)
      (nobody : chosen.assignee = none)

theorem Unproductive.not_productive (h : r.Unproductive load context) :
    ¬ r.Productive load context := by
  intro productive
  cases h with
  | off inactive => simp [productive.active] at inactive
  | idle inapplicable => simp [productive.applies] at inapplicable
  | empty answer nobody => exact productive.finds _ answer nobody

/-- Whether a rule, once it is asked, ends the search. -/
def settles (load : Load) (context : Context) (r : AssignmentRule) : Bool :=
  match r.assign load context with
  | .ok chosen => chosen.assignee.isSome
  | .error _ => true

/-- Whether a rule brings an assignment about. -/
def yields (load : Load) (context : Context) (r : AssignmentRule) : Bool :=
  r.active && Work.affirmed (Group.holds? r.appliesWhen context) && r.settles load context

theorem settles_iff : r.settles load context = true ↔
    ∀ chosen, r.assign load context = .ok chosen → chosen.assignee ≠ none := by
  unfold settles
  cases r.assign load context with
  | error f => simp
  | ok chosen => simp [Option.isSome_iff_ne_none]

theorem yields_iff : r.yields load context = true ↔ r.Productive load context := by
  rw [yields, Bool.and_eq_true, Bool.and_eq_true, Work.affirmed_iff, settles_iff]
  exact ⟨fun h => ⟨h.1.1, h.1.2, h.2⟩, fun h => ⟨⟨h.active, h.applies⟩, h.finds⟩⟩

/-- At its place in a list a rule is productive, and the least of those that are, by priority and at
one priority by place. -/
structure FirstAt (rules : List AssignmentRule) (load : Load) (context : Context) (i : Nat)
    (r : AssignmentRule) : Prop where
  listed : rules[i]? = some r
  productive : r.Productive load context
  least : ∀ j s, rules[j]? = some s → s.Productive load context →
    r.priority < s.priority ∨ r.priority = s.priority ∧ i ≤ j

theorem FirstAt.unique {i j : Nat} (h : FirstAt rules load context i r)
    (h' : FirstAt rules load context j s) : r = s := by
  have hij := h.least j s h'.listed h'.productive
  have hji := h'.least i r h.listed h.productive
  obtain rfl : i = j := by omega
  exact Option.some.inj (h.listed.symm.trans h'.listed)

/-! ## Without sorting -/

/-- The productive rule that goes first: one that is listed later goes before one that is listed
earlier only if its priority is smaller. -/
def first? (load : Load) (context : Context) : List AssignmentRule → Option AssignmentRule
  | [] => none
  | r :: rest =>
    if r.yields load context then
      match first? load context rest with
      | none => some r
      | some s => if s.priority < r.priority then some s else some r
    else first? load context rest

theorem first?_cons_of_not (h : ¬ r.Productive load context) (rest : List AssignmentRule) :
    first? load context (r :: rest) = first? load context rest := by
  rw [← yields_iff] at h
  rw [first?, if_neg h]

theorem not_productive_of_first?_eq_none (h : first? load context rules = none) :
    ∀ r ∈ rules, ¬ r.Productive load context := by
  induction rules with
  | nil => simp
  | cons r rest ih =>
    rw [first?] at h
    split at h
    · cases hrest : first? load context rest with
      | none => simp [hrest] at h
      | some s =>
        rw [hrest] at h
        dsimp only at h
        split at h <;> cases h
    · rename_i hidle
      rw [yields_iff] at hidle
      exact List.forall_mem_cons.mpr ⟨hidle, ih h⟩

/-- What goes first behind a rule goes first with it too, if the rule does not go before it. -/
theorem FirstAt.behind {rest : List AssignmentRule} {i : Nat} (h : FirstAt rest load context i s)
    (hr : r.Productive load context → s.priority < r.priority) :
    FirstAt (r :: rest) load context (i + 1) s where
  listed := h.listed
  productive := h.productive
  least j t ht productive := by
    cases j with
    | zero =>
      obtain rfl : r = t := Option.some.inj ht
      exact .inl (hr productive)
    | succ j =>
      rcases h.least j t ht productive with hlt | ⟨heq, hle⟩
      · exact .inl hlt
      · exact .inr ⟨heq, by omega⟩

theorem FirstAt.head {rest : List AssignmentRule} (productive : r.Productive load context)
    (hrest : ∀ s ∈ rest, s.Productive load context → r.priority ≤ s.priority) :
    FirstAt (r :: rest) load context 0 r where
  listed := rfl
  productive := productive
  least j t ht htp := by
    cases j with
    | zero =>
      obtain rfl : r = t := Option.some.inj ht
      exact .inr ⟨rfl, Nat.le_refl _⟩
    | succ j =>
      have hle := hrest t (List.mem_of_getElem? ht) htp
      rcases Int.lt_or_eq_of_le hle with hlt | heq
      · exact .inl hlt
      · exact .inr ⟨heq, Nat.zero_le _⟩

theorem exists_firstAt (h : first? load context rules = some r) :
    ∃ i, FirstAt rules load context i r := by
  induction rules generalizing r with
  | nil => cases h
  | cons a rest ih =>
    rw [first?] at h
    split at h
    · rename_i hyields
      have productive := yields_iff.mp hyields
      cases hrest : first? load context rest with
      | none =>
        rw [hrest, Option.some.injEq] at h
        subst h
        have hnone := not_productive_of_first?_eq_none hrest
        exact ⟨0, .head productive fun s hs hsp => absurd hsp (hnone s hs)⟩
      | some s =>
        obtain ⟨i, hi⟩ := ih hrest
        rw [hrest] at h
        dsimp only at h
        split at h
        · rename_i hlt
          rw [Option.some.injEq] at h
          subst h
          exact ⟨i + 1, hi.behind fun _ => hlt⟩
        · rename_i hle
          rw [Option.some.injEq] at h
          subst h
          refine ⟨0, .head productive fun t ht htp => ?_⟩
          obtain ⟨j, hj⟩ := List.mem_iff_getElem?.mp ht
          have := hi.least j t hj htp
          omega
    · rename_i hidle
      rw [yields_iff] at hidle
      obtain ⟨i, hi⟩ := ih h
      exact ⟨i + 1, hi.behind fun productive => absurd productive hidle⟩

/-! ## In order -/

/-- Some rules in the order in which they are tried. -/
abbrev tried (rules : List AssignmentRule) : List AssignmentRule :=
  (rules.filter (·.active)).mergeSort fun a b => decide (a.priority ≤ b.priority)

theorem mem_tried : r ∈ tried rules ↔ r ∈ rules ∧ r.active = true := by
  rw [List.mem_mergeSort, List.mem_filter]

/-- The first productive rule in the order in which rules are tried is found without sorting them. -/
theorem find?_tried (rules : List AssignmentRule) :
    (tried rules).find? (·.yields load context) = first? load context rules := by
  have htrans : ∀ a b c : AssignmentRule, decide (a.priority ≤ b.priority) = true →
      decide (b.priority ≤ c.priority) = true → decide (a.priority ≤ c.priority) = true := by
    simp only [decide_eq_true_eq]
    omega
  have htotal : ∀ a b : AssignmentRule,
      (decide (a.priority ≤ b.priority) || decide (b.priority ≤ a.priority)) = true := by
    simp only [Bool.or_eq_true, decide_eq_true_eq]
    omega
  induction rules with
  | nil => simp [first?]
  | cons r rest ih =>
    cases hactive : r.active with
    | false =>
      rw [first?_cons_of_not (Unproductive.off hactive).not_productive, ← ih, tried,
        List.filter_cons_of_neg (by simp [hactive])]
    | true =>
      -- the others keep their places, and only rules of a smaller priority go before this one
      obtain ⟨front, back, hwith, hwithout, hfront⟩ :=
        List.mergeSort_cons htrans htotal r (rest.filter (·.active))
      have hsorted := List.pairwise_mergeSort htrans htotal (r :: rest.filter (·.active))
      rw [hwith] at hsorted
      rw [tried, hwithout, List.find?_append] at ih
      rw [tried, List.filter_cons_of_pos hactive, hwith, List.find?_append, first?, ← ih]
      cases hyields : r.yields load context with
      | false => rw [List.find?_cons_of_neg (by simp [hyields]), if_neg (by simp)]
      | true =>
        rw [List.find?_cons_of_pos hyields, if_pos rfl]
        cases hfound : front.find? (·.yields load context) with
        | some s =>
          have hlt := hfront s (List.mem_of_find?_eq_some hfound)
          simp only [Bool.not_eq_true', decide_eq_false_iff_not, Int.not_le] at hlt
          simp [hlt]
        | none =>
          cases hlater : back.find? (·.yields load context) with
          | none => simp
          | some s =>
            have hle := (List.pairwise_cons.mp (List.pairwise_append.mp hsorted).2.1).1 s
              (List.mem_of_find?_eq_some hlater)
            simp only [decide_eq_true_eq] at hle
            simp [Int.not_lt.mpr hle]

/-! ## The choice -/

/-- What is chosen where a rule goes first, or none does. -/
def choice (load : Load) (context : Context) :
    Option AssignmentRule → Except Failure Assignment
  | none => .ok (.nobody .noRule)
  | some r => r.assign load context

theorem firstOf_eq (active : ∀ r ∈ rules, r.active = true)
    (answered : ∀ r ∈ rules, ∃ b, Group.holds? r.appliesWhen context = .ok b) :
    firstOf load context rules = choice load context (rules.find? (·.yields load context)) := by
  induction rules with
  | nil => rfl
  | cons r rest ih =>
    obtain ⟨hactive, hrest⟩ := List.forall_mem_cons.mp active
    obtain ⟨⟨b, hb⟩, hanswered⟩ := List.forall_mem_cons.mp answered
    have hyields : r.yields load context = (b && r.settles load context) := by
      rw [yields, hactive, hb, Bool.true_and, Work.affirmed]
    rw [firstOf, hb, Work.except_ok_bind]
    cases b with
    | false =>
      rw [List.find?_cons_of_neg (by simp [hyields])]
      exact ih hrest hanswered
    | true =>
      cases hassign : r.assign load context with
      | error f =>
        rw [List.find?_cons_of_pos (by simp [hyields, settles, hassign]), choice, hassign]
        rfl
      | ok chosen =>
        cases hfound : chosen.assignee.isSome with
        | true =>
          rw [List.find?_cons_of_pos (by simp [hyields, settles, hassign, hfound]), choice, hassign]
          exact if_pos hfound
        | false =>
          rw [List.find?_cons_of_neg (by simp [hyields, settles, hassign, hfound]),
            ← ih hrest hanswered]
          exact if_neg (Bool.eq_false_iff.mp hfound)

theorem assignByRules_eq (answered : ∀ r ∈ rules, r.active = true →
      ∃ b, Group.holds? r.appliesWhen context = .ok b) :
    assignByRules rules load context = choice load context (first? load context rules) := by
  rw [← find?_tried]
  exact firstOf_eq (fun r hr => (mem_tried.mp hr).2)
    fun r hr => answered r (mem_tried.mp hr).1 (mem_tried.mp hr).2

theorem applies_of_firstOf {chosen : Assignment} (h : firstOf load context rules = .ok chosen)
    (found : chosen.assignee ≠ none) :
    ∃ r ∈ rules, Group.holds? r.appliesWhen context = .ok true ∧
      r.assign load context = .ok chosen := by
  induction rules with
  | nil =>
    cases h
    exact absurd rfl found
  | cons r rest ih =>
    rw [firstOf, Work.except_bind_eq_ok_iff] at h
    obtain ⟨applies, happlies, h⟩ := h
    have later (h : firstOf load context rest = .ok chosen) : ∃ s ∈ r :: rest,
        Group.holds? s.appliesWhen context = .ok true ∧ s.assign load context = .ok chosen := by
      obtain ⟨s, hs, hchosen⟩ := ih h
      exact ⟨s, List.mem_cons_of_mem r hs, hchosen⟩
    cases applies with
    | false => exact later h
    | true =>
      obtain ⟨own, hown, h⟩ := Work.except_bind_eq_ok_iff.mp h
      split at h
      · cases h
        exact ⟨r, List.mem_cons_self, happlies, hown⟩
      · exact later h

/-- Somebody is chosen by a productive rule only, also where it cannot be told of every rule whether
it applies. -/
theorem productive_of_assignByRules {chosen : Assignment}
    (h : assignByRules rules load context = .ok chosen) (found : chosen.assignee ≠ none) :
    ∃ r ∈ rules, r.Productive load context ∧ r.assign load context = .ok chosen := by
  obtain ⟨r, hr, happlies, hown⟩ := applies_of_firstOf h found
  refine ⟨r, (mem_tried.mp hr).1, ⟨(mem_tried.mp hr).2, happlies, fun other hother => ?_⟩, hown⟩
  rwa [Except.ok.inj (hother.symm.trans hown)]

/-! ## Rules that are put in -/

/-- Rules of the sort are put into a list, anywhere. -/
inductive Inserted (sort : AssignmentRule → Prop) :
    List AssignmentRule → List AssignmentRule → Prop
  | done : Inserted sort [] []
  | kept {rules more : List AssignmentRule} (r : AssignmentRule)
      (later : Inserted sort rules more) : Inserted sort (r :: rules) (r :: more)
  | added {rules more : List AssignmentRule} {r : AssignmentRule} (ofSort : sort r)
      (later : Inserted sort rules more) : Inserted sort rules (r :: more)

theorem Inserted.first?_eq (h : Inserted (·.Unproductive load context) rules more) :
    first? load context more = first? load context rules := by
  induction h with
  | done => rfl
  | kept r _ ih => rw [first?, first?, ih]
  | added unproductive _ ih => rw [first?_cons_of_not unproductive.not_productive, ih]

/-- It can be told of each rule that is on whether it applies. Then the choice is that of the productive
rule which is the least by priority and, at one priority, by its place, it fails with that rule, and it
names that rule and its strategy; where no rule is productive, there is a choice and nobody is chosen.
Rules that are off, do not apply or find nobody can be put in anywhere, and the choice is the same. -/
theorem first_productive_chosen {rules : List AssignmentRule} {load : Load} {context : Context}
    (answered : ∀ r ∈ rules, r.active = true →
      ∃ b, Group.holds? r.appliesWhen context = .ok b) :
    ((∃ i r, FirstAt rules load context i r ∧
        assignByRules rules load context = r.assign load context ∧
        ∀ chosen, r.assign load context = .ok chosen → chosen.assignee ≠ none ∧
          chosen.rule = some r.id ∧ chosen.strategy = some r.strategy) ∨
      (∀ r ∈ rules, ¬ r.Productive load context) ∧
        ∃ chosen, assignByRules rules load context = .ok chosen ∧ chosen.assignee = none) ∧
    ∀ more, Inserted (·.Unproductive load context) rules more →
      (∀ r ∈ more, r.active = true → ∃ b, Group.holds? r.appliesWhen context = .ok b) →
      assignByRules more load context = assignByRules rules load context := by
  rw [assignByRules_eq answered]
  refine ⟨?chosen, fun more inserted hmore => ?inserted⟩
  case chosen =>
    cases hfirst : first? load context rules with
    | none => exact .inr ⟨not_productive_of_first?_eq_none hfirst, _, rfl, rfl⟩
    | some r =>
      obtain ⟨i, hi⟩ := exists_firstAt hfirst
      exact .inl ⟨i, r, hi, rfl, fun chosen h => ⟨hi.productive.finds chosen h, assign_names h⟩⟩
  case inserted => rw [assignByRules_eq hmore, inserted.first?_eq]

end AssignmentRule

/-! Two rules of one priority stand behind one of a higher number; between them stand a rule that is
off, one for another place, and one without candidates. -/

namespace Rota

open AssignmentRule

def context : Context :=
  { Context.ofNow ⟨0, Calendar.zero_lt_microCount⟩ with data := [("site", .text "Rome")] }

def rule (id : String) (priority : Int) (people : List String) : AssignmentRule :=
  { id := id, strategy := .loadBalance, candidates := people.map fun id => { id := id },
    priority := priority }

def late : AssignmentRule := rule "late" 2 ["ann"]

def early : AssignmentRule := rule "early" 1 ["dan"]

def second : AssignmentRule := rule "second" 1 ["eve"]

def off : AssignmentRule := { rule "off" 0 ["bob"] with active := false }

def abroad : AssignmentRule :=
  { rule "abroad" 0 ["cat"] with
    appliesWhen := some { nodes := [.leaf { field := "site", operator := .equals,
                                            value := .text "Oslo" }] } }

def empty : AssignmentRule := rule "empty" 0 []

def padded : List AssignmentRule := [off, late, abroad, early, empty, second]

theorem not_abroad : Group.holds? abroad.appliesWhen context = .ok false := by
  rfl

theorem padded_inserted :
    Inserted (·.Unproductive {} context) [late, early, second] padded :=
  .added (.off rfl) (.kept late (.added (.idle not_abroad) (.kept early
    (.added (.empty (r := empty) rfl rfl) (.kept second .done)))))

theorem early_first : FirstAt [late, early, second] {} context 1 early where
  listed := rfl
  productive := ⟨rfl, rfl, by rintro chosen ⟨⟩; decide⟩
  least j s hs _ := by
    match j with
    | 0 =>
      obtain rfl : late = s := Option.some.inj hs
      exact .inl (by decide)
    | 1 =>
      obtain rfl : early = s := Option.some.inj hs
      exact .inr ⟨rfl, Nat.le_refl _⟩
    | 2 =>
      obtain rfl : second = s := Option.some.inj hs
      exact .inr ⟨rfl, Nat.le_succ _⟩
    | _ + 3 => cases hs

end Rota

namespace AssignmentRule

open Rota in
/-- Of the two rules of one priority the one that is listed first is taken, with or without those that
bring nothing about. -/
theorem first_productive_chosen_rota :
    (∀ r ∈ [late, early, second], r.active = true →
      ∃ b, Group.holds? r.appliesWhen context = .ok b) ∧
    Inserted (·.Unproductive {} context) [late, early, second] padded ∧
    assignByRules padded {} context = early.assign {} context ∧
    (early.assign {} context).map (·.assignee) = .ok (some { id := "dan" }) := by
  have answered : ∀ r ∈ [late, early, second], r.active = true →
      ∃ b, Group.holds? r.appliesWhen context = .ok b := by
    simp [late, early, second, rule, Group.holds?]
  have hpadded : ∀ r ∈ padded, r.active = true →
      ∃ b, Group.holds? r.appliesWhen context = .ok b := by
    simp only [padded, List.forall_mem_cons]
    exact ⟨fun _ => ⟨true, rfl⟩, fun _ => ⟨true, rfl⟩, fun _ => ⟨false, not_abroad⟩,
      fun _ => ⟨true, rfl⟩, fun _ => ⟨true, rfl⟩, fun _ => ⟨true, rfl⟩, by simp⟩
  obtain ⟨hfirst, hmore⟩ := @first_productive_chosen [late, early, second] {} context answered
  refine ⟨answered, padded_inserted, ?_, rfl⟩
  rw [hmore padded padded_inserted hpadded]
  rcases hfirst with ⟨i, r, hr, hchoice, -⟩ | ⟨hnone, -⟩
  · rw [hchoice, hr.unique early_first]
  · exact absurd early_first.productive (hnone early (by simp))

end AssignmentRule

end Formwork
