import Formwork.Field.Rule
import Formwork.Proofs.Condition.ReadSet
import Formwork.Proofs.Field.Merging
import Formwork.Proofs.Work
/-!
# Rules that are applied again

When a field changes, only the rules that read it are applied again. The others apply now as they
did before, so nothing they say is out of date; but of two rules that touch the same property the
later one counts, and that may be one of those that are left out.
-/
namespace Formwork

namespace FieldRule

/-- Whether the conditions of a rule read a field. -/
def reads (r : FieldRule) (field : String) : Bool := r.conditions.fieldNames.contains field

/-- The rules that are applied again when a field changes. -/
def affected (field : String) (rules : List FieldRule) : List FieldRule :=
  rules.filter (·.reads field)

/-! ## Which rules apply -/

section Applying

variable {rules applying : List FieldRule} {c d : Context}

/-- Whether a rule applies, as far as its conditions have an answer. -/
def matched (c : Context) (r : FieldRule) : Bool :=
  match r.applies c with
  | .ok b => b
  | .error _ => false

theorem matched_iff {r : FieldRule} : r.matched c = true ↔ r.applies c = .ok true :=
  Work.affirmed_iff

theorem applying_eq_ok_iff : FieldRule.applying c rules = .ok applying ↔
    (∀ r ∈ rules, ∃ b, r.applies c = .ok b) ∧ applying = rules.filter (matched c) :=
  Work.sift_eq_ok_iff (·.applies c) (FieldRule.applying c) rfl fun _ _ => rfl

theorem applyRules_returns_iff : (∃ effects, applyRules rules c = .ok effects) ↔
    ∀ r ∈ rules, ∃ b, r.applies c = .ok b := by
  constructor
  · rintro ⟨effects, h⟩
    unfold applyRules at h
    cases happlying : FieldRule.applying c rules with
    | ok applying => exact (applying_eq_ok_iff.mp happlying).1
    | error f =>
      rw [happlying] at h
      cases h
  · intro h
    have happlying := applying_eq_ok_iff.mpr ⟨h, rfl⟩
    exact ⟨_, by rw [applyRules, happlying]; rfl⟩

theorem affected_answer (h : ∀ r ∈ rules, ∃ b, r.applies c = .ok b) (field : String) :
    ∀ r ∈ affected field rules, ∃ b, r.applies c = .ok b :=
  fun r hr => h r (List.mem_filter.mp hr).1

/-! ## What they set -/

variable {effects : RuleEffects} {target property : String} {r : FieldRule} {v : Value}

/-- What a rule by itself sets a property to. -/
def setting? (r : FieldRule) (c : Context) (target property : String) : Option Value :=
  (Updates.ofList (r.updates c)).get? target property

/-- What a list of rules that apply sets a property to. -/
def settled? (c : Context) (target property : String) : List FieldRule → Option Value
  | [] => none
  | r :: rest =>
    (settled? c target property rest).or
      (if r.matched c then r.setting? c target property else none)

theorem last?_updates (c : Context) (applying : List FieldRule) :
    (Updates.ofList (applying.flatMap (·.updates c))).get? target property =
      Updates.last? (applying.map fun r => Updates.ofList (r.updates c)) target property := by
  induction applying with
  | nil => rfl
  | cons r rest ih =>
    rw [Updates.get?_ofList] at ih ⊢
    rw [List.flatMap_cons, List.map_append, Updates.last?_append, ih, List.map_cons,
      Updates.last?_cons, Updates.get?_ofList]

theorem settled?_eq_last? : settled? c target property rules = Updates.last?
    ((rules.filter (matched c)).map fun r => Updates.ofList (r.updates c)) target property := by
  induction rules with
  | nil => rfl
  | cons r rest ih =>
    by_cases hmatched : r.matched c
    · rw [List.filter_cons_of_pos hmatched, List.map_cons, Updates.last?_cons, ← ih]
      simp only [settled?, hmatched, ↓reduceIte, setting?]
    · rw [List.filter_cons_of_neg hmatched, ← ih]
      simp [settled?, hmatched]

theorem applyRules_get? (h : applyRules rules c = .ok effects) :
    effects.merged.get? target property = settled? c target property rules := by
  have hall := applyRules_returns_iff.mp ⟨effects, h⟩
  have happlying := applying_eq_ok_iff.mpr ⟨hall, rfl⟩
  rw [applyRules, happlying] at h
  have heffects : Updates.ofList ((rules.filter (matched c)).flatMap (·.updates c)) =
      effects.merged := congrArg RuleEffects.merged (Except.ok.inj h)
  rw [← heffects, last?_updates, settled?_eq_last?]

/-- A rule that applies and sets a property, with none behind it that applies and sets it too. -/
def Prevails (rules : List FieldRule) (c : Context) (target property : String) (r : FieldRule)
    (v : Value) : Prop :=
  ∃ before after, rules = before ++ r :: after ∧ r.applies c = .ok true ∧
    r.setting? c target property = some v ∧
    ∀ later ∈ after, later.applies c = .ok true → later.setting? c target property = none

theorem settled?_eq_none_iff : settled? c target property rules = none ↔
    ∀ r ∈ rules, r.applies c = .ok true → r.setting? c target property = none := by
  induction rules with
  | nil => simp [settled?]
  | cons r rest ih =>
    rw [List.forall_mem_cons, settled?, Option.or_eq_none_iff, ih, ← matched_iff, and_comm]
    cases r.matched c <;> simp

theorem settled?_eq_some_iff : settled? c target property rules = some v ↔
    ∃ r, Prevails rules c target property r v := by
  induction rules with
  | nil => simp [settled?, Prevails]
  | cons r rest ih =>
    constructor
    · intro h
      cases hrest : settled? c target property rest with
      | some w =>
        obtain rfl : w = v := by simpa [settled?, hrest] using h
        obtain ⟨s, before, after, hsplit, hs⟩ := ih.mp hrest
        exact ⟨s, r :: before, after, by rw [hsplit, List.cons_append], hs⟩
      | none =>
        have hown : r.matched c = true ∧ r.setting? c target property = some v := by
          simpa [settled?, hrest] using h
        exact ⟨r, [], rest, rfl, matched_iff.mp hown.1, hown.2, settled?_eq_none_iff.mp hrest⟩
    · rintro ⟨s, before, after, hsplit, happlies, hsets, hafter⟩
      cases before with
      | nil =>
        obtain ⟨rfl, rfl⟩ : r = s ∧ rest = after := by simpa using hsplit
        have hrest := settled?_eq_none_iff.mpr hafter
        simp [settled?, hrest, matched_iff.mpr happlies, hsets]
      | cons first before =>
        obtain ⟨-, hsplit⟩ : r = first ∧ rest = before ++ s :: after := by simpa using hsplit
        have hrest := ih.mpr ⟨s, before, after, hsplit, happlies, hsets, hafter⟩
        simp [settled?, hrest]

/-- A rule that reads the field and prevails among all prevails among those applied again. -/
theorem Prevails.affected {field : String} (h : Prevails rules c target property r v)
    (hreads : r.reads field = true) : Prevails (affected field rules) c target property r v := by
  obtain ⟨before, after, rfl, happlies, hsets, hafter⟩ := h
  refine ⟨before.filter (·.reads field), after.filter (·.reads field), ?_, happlies, hsets, ?_⟩
  · simp [FieldRule.affected, hreads]
  · exact fun later hlater => hafter later (List.mem_filter.mp hlater).1

/-- What is set by the rules that are applied again is set by all of them, to whatever value. -/
theorem settled?_of_affected {field : String}
    (h : settled? c target property (affected field rules) = some v) :
    ∃ w, settled? c target property rules = some w := by
  cases hall : settled? c target property rules with
  | some w => exact ⟨w, rfl⟩
  | none =>
    have hnone : settled? c target property (FieldRule.affected field rules) = none :=
      settled?_eq_none_iff.mpr fun r hr =>
        settled?_eq_none_iff.mp hall r (List.mem_filter.mp hr).1
    rw [hnone] at h
    cases h

end Applying

/-! A permit that is hidden once a country is named, unless the journey is for work. -/

namespace Permit

def travelling : FieldRule where
  id := "travelling"
  name := none
  conditions := { nodes := [.leaf { field := "country", operator := .isNotEmpty }] }
  actions := [{ kind := .hideField, target := "permit" }]
  active := true

def working : FieldRule where
  id := "working"
  name := none
  conditions := { nodes := [.leaf { field := "purpose", operator := .isNotEmpty }] }
  actions := [{ kind := .showField, target := "permit" }]
  active := true

def context : Context :=
  { Context.ofNow ⟨0, Calendar.zero_lt_microCount⟩ with
    data := [("country", .text "Chile"), ("purpose", .text "work")] }

def part : RuleEffects where
  applied := ["travelling"]
  updates := [⟨"permit", .visible, .bool false, some "travelling"⟩]
  merged := [("permit", [("visible", .bool false)])]

def whole : RuleEffects where
  applied := ["travelling", "working"]
  updates := [⟨"permit", .visible, .bool false, some "travelling"⟩,
    ⟨"permit", .visible, .bool true, some "working"⟩]
  merged := [("permit", [("visible", .bool true)])]

theorem part_eq : applyRulesReading "country" [travelling, working] context = .ok part := by cbv

theorem whole_eq : applyRules [travelling, working] context = .ok whole := by rfl

/-- The same journey to another country. -/
def elsewhere : Context :=
  { context with data := [("country", .text "Peru"), ("purpose", .text "work")] }

theorem affected_eq : affected "country" [travelling, working] = [travelling] := by cbv

theorem alike : context.Alike elsewhere :=
  ⟨rfl, rfl, rfl, rfl, rfl, by decide, by decide⟩

end Permit

/-! ## What a change leaves alone -/

theorem applies_eq {c d : Context} (h : c.Alike d) {r : FieldRule}
    (hagree : c.AgreeOn d r.conditions.fieldNames) : r.applies c = r.applies d := by
  simp only [applies, h.group_eq hagree]

/-- A group of conditions has the same answer, or the same failure, in two contexts that agree on
the fields that it reads; so a rule that is left out when a field changes applies after any change of
it just as before. -/
theorem left_out_unmoved {c d : Context} (h : c.Alike d) :
    (∀ g : Group, c.AgreeOn d g.fieldNames → g.holds c = g.holds d) ∧
    ∀ (field : String) (rules : List FieldRule), ∀ r ∈ rules, r ∉ affected field rules →
      (∀ other, other ≠ field → c.data.get? other = d.data.get? other) →
      r.applies c = r.applies d := by
  refine ⟨fun g hagree => h.group_eq hagree, fun field rules r hr hleft hothers => ?_⟩
  have hunread : field ∉ r.conditions.fieldNames := by
    intro hfield
    apply hleft
    exact List.mem_filter.mpr ⟨hr, by simpa [reads] using hfield⟩
  apply applies_eq h
  intro other hother
  apply hothers
  rintro rfl
  exact hunread hother

theorem left_out_unmoved_permit :
    Permit.working ∉ affected "country" [Permit.travelling, Permit.working] ∧
      Permit.context.data.get? "country" ≠ Permit.elsewhere.data.get? "country" ∧
      Permit.working.applies Permit.context = Permit.working.applies Permit.elsewhere := by
  have hleft : Permit.working ∉ affected "country" [Permit.travelling, Permit.working] := by
    rw [Permit.affected_eq, List.mem_singleton]
    intro h
    exact absurd (congrArg FieldRule.id h) (by decide)
  refine ⟨hleft, by simp [Permit.context, Permit.elsewhere, Entries.get?], ?_⟩
  apply (left_out_unmoved Permit.alike).2 "country" _ _ (by simp) hleft
  intro other hother
  simp [Permit.context, Permit.elsewhere, Entries.get?, Ne.symm hother]

/-! ## What part of the rules says -/

/-- Where all rules can be applied, those that read a field can. What these set a property to is what
all rules set it to if and only if the others can be applied as well and no rule that does not read
the field has the last word with another value. -/
theorem agrees_unless_overruled (field : String) (rules : List FieldRule) (c : Context) :
    ((∃ whole, applyRules rules c = .ok whole) →
      ∃ part, applyRulesReading field rules c = .ok part) ∧
    ∀ part, applyRulesReading field rules c = .ok part →
      ∀ target property v, part.merged.get? target property = some v →
        ((∃ whole, applyRules rules c = .ok whole ∧
            whole.merged.get? target property = some v) ↔
          (∀ r ∈ rules, ∃ b, r.applies c = .ok b) ∧
          ∀ r w, Prevails rules c target property r w → r.reads field = false → w = v) := by
  constructor
  · intro h
    exact applyRules_returns_iff.mpr (affected_answer (applyRules_returns_iff.mp h) field)
  · intro part hpart target property v hv
    rw [applyRules_get? hpart] at hv
    constructor
    · rintro ⟨whole, hwhole, hentry⟩
      refine ⟨applyRules_returns_iff.mp ⟨whole, hwhole⟩, fun r w hprevails _ => ?_⟩
      rw [applyRules_get? hwhole, settled?_eq_some_iff.mpr ⟨r, hprevails⟩] at hentry
      exact Option.some.inj hentry
    · rintro ⟨hanswers, hlast⟩
      obtain ⟨whole, hwhole⟩ := applyRules_returns_iff.mpr hanswers
      obtain ⟨w, hw⟩ := settled?_of_affected hv
      refine ⟨whole, hwhole, ?_⟩
      rw [applyRules_get? hwhole, hw]
      -- The last word is with a rule that is applied again, or with another one of the same value.
      obtain ⟨r, hprevails⟩ := settled?_eq_some_iff.mp hw
      cases hreads : r.reads field with
      | false => rw [hlast r w hprevails hreads]
      | true =>
        rw [← hv]
        exact (settled?_eq_some_iff.mpr ⟨r, hprevails.affected hreads⟩).symm

theorem agrees_unless_overruled_permit :
    applyRulesReading "country" [Permit.travelling, Permit.working] Permit.context =
        .ok Permit.part ∧
      Permit.part.merged.get? "permit" "visible" = some (.bool false) ∧
      ¬ ((∀ r ∈ [Permit.travelling, Permit.working], ∃ b, r.applies Permit.context = .ok b) ∧
        ∀ r w, Prevails [Permit.travelling, Permit.working] Permit.context "permit" "visible" r w →
          r.reads "country" = false → w = .bool false) := by
  refine ⟨Permit.part_eq, rfl, fun h => ?_⟩
  obtain ⟨whole, hwhole, hentry⟩ := ((agrees_unless_overruled "country" _ _).2 Permit.part
    Permit.part_eq "permit" "visible" (.bool false) rfl).mpr h
  rw [Permit.whole_eq] at hwhole
  cases hwhole
  cases hentry

/-- What the rules that are applied again say is not what all rules say. -/
theorem Permit.not_always_agrees : ¬ ∀ (field : String) (rules : List FieldRule) (c : Context)
    (part whole : RuleEffects), applyRulesReading field rules c = .ok part →
      applyRules rules c = .ok whole → ∀ target property v,
        part.merged.get? target property = some v →
          whole.merged.get? target property = some v := by
  intro h
  have hentry := h "country" _ _ _ _ Permit.part_eq Permit.whole_eq "permit" "visible"
    (.bool false) rfl
  cases hentry

end FieldRule
end Formwork
