import Formwork.Assignment.Choose
import Formwork.Proofs.Work
/-!
# Who qualifies for an assignment

A candidate qualifies who is available, has not reached the limit of open assignments and suits the
strategy: for one strategy that means to have all skills that are asked for, for another one to be at
the place where the submission belongs. Here this is said of a candidate alone, without the lists in
which the choice looks for one. The choice fails only where a skill that is asked for cannot be
written, or a place where nobody is.
-/
namespace Formwork

/-! ## Limits -/

/-- A candidate is available, and below the limit where one is set. -/
structure Candidate.Eligible (c : Candidate) (load : Load) (limit : Option Int) : Prop where
  available : c.available = true
  below : ∀ most, limit = some most → load.openFor c.id < most

theorem Load.admits_iff {load : Load} {c : Candidate} {limit : Option Int} :
    load.admits c limit = true ↔ c.Eligible load limit := by
  unfold admits
  rw [Bool.and_eq_true]
  cases limit with
  | none => exact ⟨fun h => ⟨h.1, by simp⟩, fun h => ⟨h.available, rfl⟩⟩
  | some most =>
    simp only [Option.map_some, Option.getD_some, decide_eq_true_eq]
    exact ⟨fun h => ⟨h.1, by simpa using h.2⟩, fun h => ⟨h.available, h.below most rfl⟩⟩

/-! ## Skills -/

/-- What an answer is made of: the members of a list, or the answer itself unless it is empty. -/
inductive Value.Part : Value → Value → Prop
  | item {items : List Value} {v : Value} (mem : v ∈ items) : Part (.list items) v
  | whole {v : Value} (noList : v.isList = false) (given : v.isEmpty = false) : Part v v

/-- A rule asks for what is part of the answer to the field that it names. -/
structure AssignmentRule.AsksFor (r : AssignmentRule) (data : Entries Value) (part : Value) :
    Prop where
  inField : ∃ field answer, r.skillField = some field ∧ field ≠ "" ∧
    data.get? field = some answer ∧ answer.Part part

/-- A rule asks for a skill: by itself, or through the answer to the field that it names. -/
inductive AssignmentRule.Asks (r : AssignmentRule) (data : Entries Value) : String → Prop
  | own {skill : String} (named : skill ∈ r.requiredSkills) : Asks r data skill
  | answered {part : Value} {skill : String} (further : r.AsksFor data part)
      (shown : part.display = .ok skill) : Asks r data skill

/-- A candidate has a skill, however it is spelt in upper and lower case. -/
def Candidate.Has (c : Candidate) (skill : String) : Prop :=
  ∃ own ∈ c.skills, Text.lower own = Text.lower skill

theorem Value.mem_parts_iff {v part : Value} :
    part ∈ (match v with
      | .list items => items
      | v => if v.isEmpty then [] else [v]) ↔ v.Part part := by
  split
  · constructor
    · exact .item
    · rintro (hpart | ⟨hlist, -⟩)
      · exact hpart
      · simp [isList] at hlist
  · rename_i hnotList
    have hlist : v.isList = false := by
      cases v <;> simp_all [isList]
    constructor
    · intro hpart
      split at hpart
      · cases hpart
      · rename_i hgiven
        rw [List.mem_singleton.mp hpart]
        exact .whole hlist (by simpa using hgiven)
    · rintro (hpart | ⟨-, hgiven⟩)
      · exact absurd rfl (hnotList _)
      · simp [hgiven]

theorem AssignmentRule.mem_askedIn {r : AssignmentRule} {data : Entries Value} {part : Value} :
    part ∈ r.askedIn data ↔ r.AsksFor data part := by
  unfold askedIn
  dsimp only
  constructor
  · intro hasked
    split at hasked
    · cases hasked
    · rename_i hempty
      have hpart := Value.mem_parts_iff.mp hasked
      cases hfield : r.skillField with
      | none => simp [hfield] at hempty
      | some field =>
        rw [hfield, Option.getD_some] at hempty hpart
        cases hgiven : data.get? field with
        | none =>
          rw [hgiven] at hpart
          rcases hpart with hpart | ⟨-, hempty⟩
          cases hempty
        | some answer =>
          rw [hgiven] at hpart
          exact ⟨field, answer, hfield, by simpa using hempty, hgiven, hpart⟩
  · rintro ⟨field, answer, hfield, hne, hgiven, hpart⟩
    rw [if_neg (by simpa [hfield] using hne), hfield, Option.getD_some, hgiven, Option.getD_some]
    exact Value.mem_parts_iff.mpr hpart

theorem AssignmentRule.skillsIn_eq_error_iff {r : AssignmentRule} {data : Entries Value}
    {f : Failure} : r.skillsIn data = .error f ↔
      f = .tooManyDigits ∧ ∃ part, r.AsksFor data part ∧ part.isWritable = false := by
  have hdisplays : (r.askedIn data).mapM Value.display = .error f ↔ _ :=
    Value.mapM_display_eq_error
  simp only [mem_askedIn] at hdisplays
  rw [skillsIn, ← hdisplays]
  cases (r.askedIn data).mapM Value.display <;>
    simp [Work.except_error_bind, Work.except_ok_bind, pure, Except.pure]

theorem AssignmentRule.mem_skillsIn {r : AssignmentRule} {data : Entries Value}
    {skills : List String} (h : r.skillsIn data = .ok skills) {skill : String} :
    skill ∈ skills ↔ ∃ asked, r.Asks data asked ∧ Text.lower asked = skill := by
  obtain ⟨further, hfurther, h⟩ := Work.except_bind_eq_ok_iff.mp h
  obtain rfl := Except.ok.inj h
  rw [mem_ascending, mem_distinct, List.mem_map]
  refine exists_congr fun asked => and_congr_left fun _ => ?_
  rw [List.mem_append, Work.mem_of_mapM_eq_ok hfurther]
  simp only [mem_askedIn]
  constructor
  · rintro (hown | ⟨part, hasked, hshown⟩)
    · exact .own hown
    · exact .answered hasked hshown
  · rintro (hown | ⟨hasked, hshown⟩)
    · exact .inl hown
    · exact .inr ⟨_, hasked, hshown⟩

theorem Candidate.hasSkills_iff {c : Candidate} {r : AssignmentRule} {data : Entries Value}
    {skills : List String} (h : r.skillsIn data = .ok skills) :
    c.hasSkills skills = true ↔ ∀ skill, r.Asks data skill → c.Has skill := by
  unfold hasSkills Has
  simp only [List.all_eq_true, AssignmentRule.mem_skillsIn h, List.contains_iff_mem, List.mem_map]
  constructor
  · intro h skill hasked
    exact h _ ⟨skill, hasked, rfl⟩
  · rintro h _ ⟨asked, hasked, rfl⟩
    exact h asked hasked

/-! ## Places -/

/-- The submission belongs somewhere: where the user's attribute says, or else where the data say. -/
inductive Context.BelongsAt (context : Context) (place : String) : Value → Prop
  | user {u : User} {location : Value} (acting : context.user = some u)
      (said : u.attributes.get? place = some location) (given : location.isEmpty = false) :
      BelongsAt context place location
  | data {location : Value}
      (unsaid : ∀ u v, context.user = some u → u.attributes.get? place = some v → v.isEmpty = true)
      (said : context.data.get? place = some location) (given : location.isEmpty = false) :
      BelongsAt context place location

/-- A candidate has an attribute of the value. -/
def Candidate.StaysAt (c : Candidate) (place : String) (location : Value) : Prop :=
  ∃ own, c.attributes.get? place = some own ∧ own.same location = true

theorem Context.belongsAt_iff {context : Context} {place : String} {v : Value} :
    context.BelongsAt place v ↔ context.location place = v ∧ v.isEmpty = false := by
  have held : ∀ {found : Option Value}, (found.getD .null).isEmpty = false →
      found = some (found.getD .null) := by
    rintro (_ | w) h
    · cases h
    · rfl
  unfold location
  dsimp only
  constructor
  · rintro (⟨hacting, hsaid, hgiven⟩ | ⟨hunsaid, hsaid, hgiven⟩)
    · simp [hacting, hsaid, hgiven]
    · have hown : (((context.user.map User.attributes).bind (Entries.get? place)).getD .null).isEmpty
          = true := by
        cases hacting : context.user with
        | none => rfl
        | some u =>
          cases hattribute : u.attributes.get? place with
          | none => simp [hattribute]
          | some w => simpa [hattribute] using hunsaid u w hacting hattribute
      rw [if_pos hown, hsaid, Option.getD_some]
      exact ⟨rfl, hgiven⟩
  · rintro ⟨rfl, hgiven⟩
    split at hgiven
    · rename_i hown
      rw [if_pos hown]
      refine .data ?_ (held hgiven) hgiven
      intro u w hacting hattribute
      simpa [hacting, hattribute] using hown
    · rename_i hown
      rw [if_neg hown]
      have hsaid := held hgiven
      cases hacting : context.user with
      | none => simp [hacting] at hsaid
      | some u =>
        rw [hacting] at hsaid hgiven
        exact .user hacting hsaid hgiven

theorem Candidate.isAt_iff {c : Candidate} {place : String} {v : Value} (given : v.isEmpty = false) :
    c.isAt place v = true ↔ c.StaysAt place v := by
  unfold isAt StaysAt
  cases c.attributes.get? place with
  | none =>
    have hnull : Value.null.same v = false := by
      cases v <;> simp_all [Value.same, Value.numeric?]
    simp [hnull]
  | some own => simp

/-! ## Strategies -/

/-- The attribute by which a rule tells places apart. -/
def placeOf (rule : Option AssignmentRule) : String :=
  (rule.map (·.locationAttribute)).getD "site_id"

/-- The skills that a rule asks for, if there is one. -/
def skillsOf (rule : Option AssignmentRule) (data : Entries Value) :
    Except Failure (List String) :=
  match rule with
  | some r => r.skillsIn data
  | none => .ok []

/-- A candidate suits a strategy: has the skills that are asked for, or is at the place where the
submission belongs, if it belongs anywhere. -/
def Candidate.Suits (c : Candidate) (strategy : Strategy) (context : Context)
    (rule : Option AssignmentRule) : Prop :=
  match strategy with
  | .roundRobin | .loadBalance => True
  | .skillMatch => ∀ r, rule = some r → ∀ skill, r.Asks context.data skill → c.Has skill
  | .locationMatch => ∀ v, context.BelongsAt (placeOf rule) v → c.StaysAt (placeOf rule) v

structure Candidate.Qualifies (c : Candidate) (strategy : Strategy) (load : Load)
    (context : Context) (rule : Option AssignmentRule) : Prop where
  eligible : c.Eligible load (rule.bind (·.maxOpen))
  suits : c.Suits strategy context rule

namespace Candidate

variable {c : Candidate} {context : Context} {rule : Option AssignmentRule}

theorem suits_skillMatch_iff {skills : List String}
    (h : skillsOf rule context.data = .ok skills) :
    c.Suits .skillMatch context rule ↔ c.hasSkills skills = true := by
  cases rule with
  | none =>
    obtain rfl := Except.ok.inj h
    simp [Suits, hasSkills]
  | some r =>
    rw [hasSkills_iff h]
    simp [Suits]

theorem suits_locationMatch_iff : c.Suits .locationMatch context rule ↔
    (context.location (placeOf rule)).isEmpty = true ∨
      c.isAt (placeOf rule) (context.location (placeOf rule)) = true := by
  simp only [Suits, Context.belongsAt_iff]
  cases hgiven : (context.location (placeOf rule)).isEmpty with
  | true =>
    refine iff_of_true ?_ (.inl rfl)
    rintro v ⟨rfl, hv⟩
    simp [hgiven] at hv
  | false =>
    rw [isAt_iff hgiven]
    constructor
    · intro h
      exact .inr (h _ ⟨rfl, hgiven⟩)
    · rintro (hempty | hstays) v ⟨rfl, -⟩
      · cases hempty
      · exact hstays

end Candidate

/-! ## The choice among those who qualify -/

namespace Load

variable {load : Load} {candidates : List Candidate}

theorem balance_assignee : (load.balance candidates).assignee = load.least? candidates := by
  unfold balance
  cases load.least? candidates <;> rfl

theorem chooseSkilled_assignee {skills : List String} :
    (load.chooseSkilled candidates skills).assignee =
      load.least? (candidates.filter (·.hasSkills skills)) := by
  unfold chooseSkilled
  cases candidates.filter (·.hasSkills skills) with
  | nil => rfl
  | cons c rest => exact balance_assignee

theorem chooseNear_assignee {place : String} {location : Value} {chosen : Assignment}
    (h : load.chooseNear candidates place location = .ok chosen) :
    chosen.assignee = load.least?
      (candidates.filter fun c => location.isEmpty || c.isAt place location) := by
  unfold chooseNear at h
  cases hgiven : location.isEmpty with
  | true =>
    rw [hgiven, if_pos rfl] at h
    obtain rfl := Except.ok.inj h
    rw [List.filter_eq_self.mpr fun _ _ => Bool.true_or _]
    exact balance_assignee
  | false =>
    rw [hgiven, if_neg Bool.false_ne_true] at h
    simp only [Bool.false_or]
    split at h
    · rename_i hnobody
      obtain ⟨text, -, h⟩ := Work.except_bind_eq_ok_iff.mp h
      obtain rfl := Except.ok.inj h
      rw [hnobody]
      rfl
    · obtain rfl := Except.ok.inj h
      exact balance_assignee

theorem chooseNear_eq_error_iff {place : String} {location : Value} {f : Failure} :
    load.chooseNear candidates place location = .error f ↔
      f = .tooManyDigits ∧ location.isWritable = false ∧
        candidates.filter (fun c => location.isEmpty || c.isAt place location) = [] := by
  unfold chooseNear
  cases hgiven : location.isEmpty with
  | true =>
    have hwritten : location.isWritable = true := by
      cases location <;> simp_all [Value.isEmpty, Value.isWritable, Value.allWritable,
        Value.entriesWritable]
    simp [hwritten]
  | false =>
    simp only [Bool.false_eq_true, ↓reduceIte, Bool.false_or]
    split
    · rename_i hnobody
      rw [hnobody, and_iff_left rfl, and_comm, ← Value.display_eq_error]
      cases location.display <;> simp [Work.except_error_bind, Work.except_ok_bind, pure, Except.pure]
    · rename_i hsome
      apply iff_of_false (by rintro ⟨⟩)
      exact fun h => hsome h.2.2

end Load

section Assign

variable {candidates : List Candidate} {strategy : Strategy} {load : Load} {context : Context}
  {rule : Option AssignmentRule}

/-- What is asked for has no text: a skill, or the place where nobody is who qualifies. -/
inductive Unwritten (candidates : List Candidate) (load : Load) (context : Context) :
    Strategy → Option AssignmentRule → Prop
  | skill {r : AssignmentRule} {part : Value} (asked : r.AsksFor context.data part)
      (long : part.isWritable = false) : Unwritten candidates load context .skillMatch (some r)
  | place {rule : Option AssignmentRule}
      (long : (context.location (placeOf rule)).isWritable = false)
      (nobody : ∀ c ∈ candidates, ¬ c.Qualifies .locationMatch load context rule) :
      Unwritten candidates load context .locationMatch rule

theorem mem_filter_iff (test : Candidate → Bool)
    (htest : ∀ c : Candidate, test c = true ↔ c.Suits strategy context rule) (c : Candidate) :
    c ∈ (candidates.filter fun c => load.admits c (rule.bind (·.maxOpen))).filter test ↔
      c ∈ candidates ∧ c.Qualifies strategy load context rule := by
  rw [List.mem_filter, List.mem_filter, Load.admits_iff, htest, and_assoc]
  exact and_congr_right fun _ => ⟨fun h => ⟨h.1, h.2⟩, fun h => ⟨h.eligible, h.suits⟩⟩

theorem suits_near_iff (c : Candidate) :
    ((context.location (placeOf rule)).isEmpty ||
      c.isAt (placeOf rule) (context.location (placeOf rule))) = true ↔
        c.Suits .locationMatch context rule := by
  rw [Bool.or_eq_true, Candidate.suits_locationMatch_iff]

theorem assign_skillMatch (candidates : List Candidate) (load : Load) (context : Context)
    (rule : Option AssignmentRule) :
    assign candidates .skillMatch load context rule = (do
      let skills ← skillsOf rule context.data
      let chosen := load.chooseSkilled
        (candidates.filter fun c => load.admits c (rule.bind (·.maxOpen))) skills
      pure { chosen with strategy := some .skillMatch, rule := rule.map (·.id) }) := by
  cases rule <;> simp [assign, skillsOf, pure, Except.pure, bind, Except.bind]

theorem assign_locationMatch (candidates : List Candidate) (load : Load) (context : Context)
    (rule : Option AssignmentRule) :
    assign candidates .locationMatch load context rule = (do
      let chosen ← load.chooseNear
        (candidates.filter fun c => load.admits c (rule.bind (·.maxOpen))) (placeOf rule)
          (context.location (placeOf rule))
      pure { chosen with strategy := some .locationMatch, rule := rule.map (·.id) }) := rfl

/-- Every strategy but the rotation takes the least loaded one of those who qualify. -/
theorem assign_among (balances : strategy ≠ .roundRobin) (candidates : List Candidate) (load : Load)
    (context : Context) (rule : Option AssignmentRule) :
    ∃ pool, (∀ c, c ∈ pool ↔ c ∈ candidates ∧ c.Qualifies strategy load context rule) ∧
      ∀ chosen, assign candidates strategy load context rule = .ok chosen →
        chosen.assignee = load.least? pool := by
  cases strategy with
  | roundRobin => exact absurd rfl balances
  | loadBalance =>
    refine ⟨_, mem_filter_iff (fun _ => true) fun c => iff_of_true rfl trivial, ?_⟩
    rintro chosen ⟨⟩
    rw [List.filter_eq_self.mpr fun _ _ => rfl]
    exact Load.balance_assignee
  | skillMatch =>
    cases hskills : skillsOf rule context.data with
    | error f =>
      classical
      refine ⟨candidates.filter fun c => decide (c.Qualifies .skillMatch load context rule),
        fun c => by simp, fun chosen h => ?_⟩
      rw [assign_skillMatch, hskills] at h
      cases h
    | ok skills =>
      refine ⟨_, mem_filter_iff _ fun c => (Candidate.suits_skillMatch_iff hskills).symm, ?_⟩
      intro chosen h
      rw [assign_skillMatch, hskills, Work.except_ok_bind] at h
      obtain rfl := Except.ok.inj h
      exact Load.chooseSkilled_assignee
  | locationMatch =>
    refine ⟨_, mem_filter_iff _ suits_near_iff, ?_⟩
    intro chosen h
    rw [assign_locationMatch] at h
    obtain ⟨found, hfound, h⟩ := Work.except_bind_eq_ok_iff.mp h
    obtain rfl := Except.ok.inj h
    exact (Load.chooseNear_assignee hfound :)

theorem assign_names {chosen : Assignment}
    (h : assign candidates strategy load context rule = .ok chosen) :
    chosen.rule = rule.map (·.id) ∧ chosen.strategy = some strategy := by
  cases strategy with
  | roundRobin | loadBalance =>
    obtain rfl := Except.ok.inj h
    exact ⟨rfl, rfl⟩
  | skillMatch =>
    rw [assign_skillMatch] at h
    obtain ⟨skills, -, h⟩ := Work.except_bind_eq_ok_iff.mp h
    obtain rfl := Except.ok.inj h
    exact ⟨rfl, rfl⟩
  | locationMatch =>
    rw [assign_locationMatch] at h
    obtain ⟨found, -, h⟩ := Work.except_bind_eq_ok_iff.mp h
    obtain rfl := Except.ok.inj h
    exact ⟨rfl, rfl⟩

theorem assign_eq_error_iff {f : Failure} :
    assign candidates strategy load context rule = .error f ↔
      f = .tooManyDigits ∧ Unwritten candidates load context strategy rule := by
  cases strategy with
  | roundRobin | loadBalance =>
    constructor
    · rintro ⟨⟩
    · rintro ⟨-, ⟨⟩⟩
  | skillMatch =>
    have hfails : Unwritten candidates load context .skillMatch rule ↔
        ∃ r part, rule = some r ∧ r.AsksFor context.data part ∧ part.isWritable = false := by
      constructor
      · rintro ⟨asked, long⟩
        exact ⟨_, _, rfl, asked, long⟩
      · rintro ⟨r, part, rfl, asked, long⟩
        exact .skill asked long
    have hskills : skillsOf rule context.data = .error f ↔
        f = .tooManyDigits ∧ Unwritten candidates load context .skillMatch rule := by
      rw [hfails]
      cases rule with
      | none => simp [skillsOf]
      | some r => simpa [skillsOf] using r.skillsIn_eq_error_iff
    rw [assign_skillMatch, ← hskills]
    cases skillsOf rule context.data <;>
      simp [Work.except_error_bind, Work.except_ok_bind, pure, Except.pure]
  | locationMatch =>
    have hfails : Unwritten candidates load context .locationMatch rule ↔
        (context.location (placeOf rule)).isWritable = false ∧
          ∀ c ∈ candidates, ¬ c.Qualifies .locationMatch load context rule := by
      constructor
      · rintro (_ | ⟨long, nobody⟩)
        exact ⟨long, nobody⟩
      · exact fun h => .place h.1 h.2
    have hnear : load.chooseNear
        (candidates.filter fun c => load.admits c (rule.bind (·.maxOpen))) (placeOf rule)
          (context.location (placeOf rule)) = .error f ↔
        f = .tooManyDigits ∧ Unwritten candidates load context .locationMatch rule := by
      rw [Load.chooseNear_eq_error_iff, hfails, List.eq_nil_iff_forall_not_mem]
      simp only [mem_filter_iff _ suits_near_iff, not_and]
    rw [assign_locationMatch, ← hnear]
    cases load.chooseNear _ (placeOf rule) (context.location (placeOf rule)) <;>
      simp [Work.except_error_bind, Work.except_ok_bind, pure, Except.pure]

end Assign
end Formwork
