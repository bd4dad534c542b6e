import Mathlib.Tactic.Common
import Formwork.Ids
/-!
# What work comes to

Work names what it makes and may fail, so it is run on a supply of names and comes either to a value
and the supply that is left, or to a failure. Sequencing is read back here once; the lemmas about
operations on submissions only say what the parts return.
-/
namespace Formwork.Work

variable {α β : Type}

/-- What the work makes of a supply of names. -/
def outcome (w : Work α) (ids : Ids) : Except Failure α × Ids := w ids

/-- The work comes to a value, and leaves a supply of names behind. -/
def Returns (w : Work α) (ids : Ids) (a : α) (left : Ids) : Prop := w.outcome ids = (.ok a, left)

/-- The work comes to a failure. -/
def Fails (w : Work α) (ids : Ids) (f : Failure) : Prop := (w.outcome ids).1 = .error f

/-- The value that the work comes to, if it does not fail. -/
def answer? (w : Work α) (ids : Ids) : Option α := (w.outcome ids).1.toOption

theorem answer?_eq_some {w : Work α} {ids : Ids} {a : α} (h : w.answer? ids = some a) :
    ∃ left, w.Returns ids a left := by
  unfold answer? at h
  unfold Returns
  rcases ho : w.outcome ids with ⟨_ | b, left⟩
  · simp [ho, Except.toOption] at h
  · refine ⟨left, ?_⟩
    simpa [ho, Except.toOption] using h

theorem Returns.unique {w : Work α} {ids left left' : Ids} {a b : α} (h : w.Returns ids a left)
    (h' : w.Returns ids b left') : a = b ∧ left = left' := by
  unfold Returns at h h'
  rw [h] at h'
  simpa using h'

theorem Fails.unique {w : Work α} {ids : Ids} {f g : Failure} (h : w.Fails ids f)
    (h' : w.Fails ids g) : f = g := by
  unfold Fails at h h'
  rw [h] at h'
  simpa using h'

theorem Returns.not_fails {w : Work α} {ids left : Ids} {a : α} {f : Failure}
    (h : w.Returns ids a left) : ¬ w.Fails ids f := by
  unfold Returns at h
  unfold Fails
  simp [h]

theorem returns_or_fails (w : Work α) (ids : Ids) :
    (∃ a left, w.Returns ids a left) ∨ ∃ f, w.Fails ids f := by
  unfold Returns Fails
  rcases w.outcome ids with ⟨f | a, left⟩
  · exact .inr ⟨f, rfl⟩
  · exact .inl ⟨a, left, rfl⟩

/-! ## The parts -/

@[simp] theorem pure_returns_iff {ids left : Ids} {a b : α} :
    (pure a : Work α).Returns ids b left ↔ a = b ∧ ids = left := by
  change (Except.ok a, ids) = (Except.ok b, left) ↔ _
  simp

@[simp] theorem not_pure_fails {ids : Ids} {a : α} {f : Failure} :
    ¬ (pure a : Work α).Fails ids f := by
  change ¬ (Except.ok a : Except Failure α) = .error f
  simp

@[simp] theorem not_throw_returns {ids left : Ids} {a : α} {f : Failure} :
    ¬ (throw f : Work α).Returns ids a left := by
  change ¬ ((Except.error f : Except Failure α), ids) = (Except.ok a, left)
  simp

@[simp] theorem throw_fails_iff {ids : Ids} {f g : Failure} :
    (throw f : Work α).Fails ids g ↔ f = g := by
  change (Except.error f : Except Failure α) = .error g ↔ _
  simp

@[simp] theorem not_refuse_returns {ids left : Ids} {a : α} {kind : Refusal.Kind} {message : String}
    {details : Entries Value} : ¬ (refuse kind message details : Work α).Returns ids a left :=
  not_throw_returns

@[simp] theorem refuse_fails_iff {ids : Ids} {f : Failure} {kind : Refusal.Kind} {message : String}
    {details : Entries Value} :
    (refuse kind message details : Work α).Fails ids f ↔ .refuse kind message details = f :=
  throw_fails_iff

@[simp] theorem lift_returns_iff {ids left : Ids} {a : α} {result : Except Failure α} :
    (lift result).Returns ids a left ↔ result = .ok a ∧ ids = left := by
  change (result, ids) = (Except.ok a, left) ↔ _
  simp

@[simp] theorem lift_fails_iff {ids : Ids} {f : Failure} {result : Except Failure α} :
    (lift result).Fails ids f ↔ result = .error f := Iff.rfl

@[simp] theorem fresh_returns_iff {ids left : Ids} {mark : Mark} {name : String} :
    (fresh mark).Returns ids name left ↔ ids.next mark = (name, left) := by
  change ((Except.ok (ids.next mark).1 : Except Failure String), (ids.next mark).2) =
    (Except.ok name, left) ↔ _
  simp [Prod.ext_iff]

@[simp] theorem not_fresh_fails {ids : Ids} {mark : Mark} {f : Failure} :
    ¬ (fresh mark).Fails ids f := by
  change ¬ (Except.ok (ids.next mark).1 : Except Failure String) = .error f
  simp

theorem state_returns_iff {m : StateM Ids α} {ids left : Ids} {a : α} :
    Returns (ExceptT.lift m) ids a left ↔ m ids = (a, left) := by
  change ((Except.ok (m ids).1 : Except Failure α), (m ids).2) = (.ok a, left) ↔ _
  rcases m ids with ⟨b, after⟩
  constructor
  · intro h
    cases h
    rfl
  · intro h
    cases h
    rfl

/-! ## One after another -/

theorem except_bind_eq_ok_iff {ε : Type} {x : Except ε α} {next : α → Except ε β} {b : β} :
    (x >>= next) = .ok b ↔ ∃ a, x = .ok a ∧ next a = .ok b := by
  cases x <;> simp [bind, Except.bind]

theorem except_bind_eq_error_iff {x : Except Failure α} {next : α → Except Failure β} {f : Failure} :
    (x >>= next) = .error f ↔ x = .error f ∨ ∃ a, x = .ok a ∧ next a = .error f := by
  cases x <;> simp [bind, Except.bind]

theorem except_ok_bind (a : α) (next : α → Except Failure β) :
    ((Except.ok a : Except Failure α) >>= next) = next a := rfl

theorem except_error_bind (f : Failure) (next : α → Except Failure β) :
    ((Except.error f : Except Failure α) >>= next) = .error f := rfl

theorem mem_of_mapM_eq_ok {act : α → Except Failure β} {l : List α} {bs : List β}
    (h : l.mapM act = .ok bs) {b : β} : b ∈ bs ↔ ∃ a ∈ l, act a = .ok b := by
  induction l generalizing bs with
  | nil =>
    cases h
    simp
  | cons a rest ih =>
    rw [List.mapM_cons] at h
    obtain ⟨first, hfirst, h⟩ := except_bind_eq_ok_iff.mp h
    obtain ⟨later, hlater, h⟩ := except_bind_eq_ok_iff.mp h
    obtain rfl := Except.ok.inj h
    rw [List.mem_cons, ih hlater]
    simp [hfirst, eq_comm]

theorem lift_ok_bind (a : α) (next : α → Work β) : (lift (.ok a) >>= next) = next a := rfl

theorem lift_error_bind (f : Failure) (next : α → Work β) :
    (lift (.error f : Except Failure α) >>= next) = throw f := rfl

theorem ite_throw_eq_ok_iff {p : Prop} [Decidable p] {f : Failure} {next : α → Except Failure β}
    {rest : Except Failure β} {b : β} :
    (if p then (throw f : Except Failure α) >>= next else rest) = .ok b ↔ ¬ p ∧ rest = .ok b := by
  split <;> simp_all [throw, throwThe, MonadExceptOf.throw, bind, Except.bind]

/-- Work that fails is not gone on with; else the next work has what the first one returned. -/
theorem outcome_bind (w : Work α) (next : α → Work β) (ids : Ids) :
    (w >>= next).outcome ids =
      match w.outcome ids with
      | (.error f, left) => (.error f, left)
      | (.ok a, left) => (next a).outcome left := by
  simp only [outcome, bind, ExceptT.bind, ExceptT.mk, StateT.bind]
  rcases w ids with ⟨_ | a, left⟩ <;> rfl

theorem bind_returns_iff {w : Work α} {next : α → Work β} {ids left : Ids} {b : β} :
    (w >>= next).Returns ids b left ↔
      ∃ a between, w.Returns ids a between ∧ (next a).Returns between b left := by
  unfold Returns
  rw [outcome_bind]
  rcases w.outcome ids with ⟨_ | a, between⟩ <;> simp

theorem bind_fails_iff {w : Work α} {next : α → Work β} {ids : Ids} {f : Failure} :
    (w >>= next).Fails ids f ↔
      w.Fails ids f ∨ ∃ a between, w.Returns ids a between ∧ (next a).Fails between f := by
  unfold Returns Fails
  rw [outcome_bind]
  rcases w.outcome ids with ⟨_ | a, between⟩ <;> simp

theorem Returns.outcome_bind {w : Work α} {ids left : Ids} {a : α} (h : w.Returns ids a left)
    (next : α → Work β) : (w >>= next).outcome ids = (next a).outcome left := by
  rw [Work.outcome_bind, show w.outcome ids = (.ok a, left) from h]

theorem bind_congr_returns {w : Work α} {next next' : α → Work β}
    (h : ∀ ids a left, w.Returns ids a left → next a = next' a) : w >>= next = w >>= next' := by
  funext ids
  change (w >>= next).outcome ids = (w >>= next').outcome ids
  rw [outcome_bind, outcome_bind]
  cases hw : w.outcome ids with
  | mk result left =>
    cases result with
    | error f => rfl
    | ok a => simp only [h ids a left hw]

theorem lift_bind (x : Except Failure α) (next : α → Except Failure β) :
    lift (x >>= next) = lift x >>= fun a => lift (next a) := by
  cases x <;> rfl

/-! ## Those of which something holds -/

/-- A question is answered, and the answer is yes. -/
def affirmed : Except Failure Bool → Bool
  | .ok b => b
  | .error _ => false

theorem affirmed_iff {x : Except Failure Bool} : affirmed x = true ↔ x = .ok true := by
  cases x with
  | ok b => simp [affirmed]
  | error f => simp [affirmed]

/-- To ask one after another and to keep those of whom the answer is yes succeeds if and only if each
question has an answer. -/
theorem sift_eq_ok_iff (ask : α → Except Failure Bool) (sift : List α → Except Failure (List α))
    (nil : sift [] = .ok []) (cons : ∀ a rest, sift (a :: rest) = (do
      let b ← ask a
      let later ← sift rest
      pure (if b then a :: later else later))) {l kept : List α} :
    sift l = .ok kept ↔
      (∀ a ∈ l, ∃ b, ask a = .ok b) ∧ kept = l.filter fun a => affirmed (ask a) := by
  induction l generalizing kept with
  | nil => simp [nil, eq_comm]
  | cons a rest ih =>
    rw [cons, List.forall_mem_cons, List.filter_cons]
    cases ha : ask a with
    | error f => simp [except_error_bind]
    | ok b =>
      simp only [except_ok_bind, affirmed, Except.ok.injEq, exists_eq', true_and]
      rw [except_bind_eq_ok_iff]
      simp only [ih, pure, Except.pure, Except.ok.injEq]
      constructor
      · rintro ⟨later, ⟨hall, rfl⟩, rfl⟩
        exact ⟨hall, rfl⟩
      · rintro ⟨hall, rfl⟩
        exact ⟨_, ⟨hall, rfl⟩, rfl⟩

/-! ## What never comes of it -/

/-- The work never comes to a failure of the sort. -/
def Avoids (w : Work α) (sort : Failure → Prop) : Prop := ∀ ids f, w.Fails ids f → ¬ sort f

section Avoids

variable {sort : Failure → Prop}

theorem pure_avoids (a : α) : (pure a : Work α).Avoids sort :=
  fun _ _ h => absurd h not_pure_fails

theorem fresh_avoids (mark : Mark) : (fresh mark).Avoids sort :=
  fun _ _ h => absurd h not_fresh_fails

theorem throw_avoids {f : Failure} (h : ¬ sort f) : (throw f : Work α).Avoids sort := by
  intro ids g hg
  rw [← throw_fails_iff.mp hg]
  exact h

theorem lift_ok_avoids (a : α) : (lift (.ok a) : Work α).Avoids sort := pure_avoids a

theorem lift_error_avoids {f : Failure} (h : ¬ sort f) : (lift (.error f) : Work α).Avoids sort :=
  throw_avoids h

theorem bind_avoids_of {w : Work α} {next : α → Work β} (h : w.Avoids sort)
    (hnext : ∀ ids a left, w.Returns ids a left → (next a).Avoids sort) :
    (w >>= next).Avoids sort := by
  intro ids f hf
  rcases bind_fails_iff.mp hf with hf | ⟨a, between, hreturned, hf⟩
  · exact h ids f hf
  · exact hnext ids a between hreturned between f hf

theorem bind_avoids {w : Work α} {next : α → Work β} (h : w.Avoids sort)
    (hnext : ∀ a, (next a).Avoids sort) : (w >>= next).Avoids sort :=
  bind_avoids_of h fun _ a _ _ => hnext a

end Avoids

/-- The work comes to a value, whatever names there are. -/
abbrev Succeeds (w : Work α) : Prop := w.Avoids fun _ => True

theorem Succeeds.returns {w : Work α} (h : w.Succeeds) (ids : Ids) :
    ∃ a left, w.Returns ids a left := by
  unfold Returns
  rcases ho : w.outcome ids with ⟨f | a, left⟩
  · exact absurd trivial (h ids f (by rw [Fails, ho]))
  · exact ⟨a, left, rfl⟩

theorem Succeeds.avoids {w : Work α} (h : w.Succeeds) {sort : Failure → Prop} : w.Avoids sort :=
  fun ids f hf => absurd trivial (h ids f hf)

theorem lift_succeeds {result : Except Failure α} (h : ∃ a, result = .ok a) :
    (lift result).Succeeds := by
  obtain ⟨a, rfl⟩ := h
  exact lift_ok_avoids a

end Formwork.Work
