import Formwork.Proofs.Calendar.Digits
import Formwork.Proofs.Work
import Mathlib.Logic.Function.Basic
/-!
# Work under other names

Two runs of the same work on supplies that have given out different numbers of names make the same
things under different names. A renaming carries the names of the one run to those of the other, and
that work respects it is put together from its parts, as the work itself is. Failures count as the
same if they are told alike, whatever their details.
-/
namespace Formwork

/-! ## Names -/

namespace Ids

variable {mark mark' : Mark} {n n' : Nat}

theorem name_inj : name mark n = name mark' n' ↔ mark = mark' ∧ n = n' := by
  constructor
  · intro h
    have htexts := congrArg String.toList h
    simp only [name, String.toList_append] at htexts
    have hmark : mark = mark' := by
      cases mark <;> cases mark' <;> simp [Mark.text] at htexts ⊢
    subst hmark
    have hpadded := congrArg (Nat.ofDigitChars 10 · 0) (List.append_cancel_left htexts)
    exact ⟨rfl, by simpa [Calendar.ofDigitChars_padded] using hpadded⟩
  · rintro ⟨rfl, rfl⟩
    rfl

/-- The name is still to be given out. -/
def Keeps (ids : Ids) (a : String) : Prop := ∃ mark n, ids.count mark < n ∧ a = name mark n

theorem keeps_name_iff {ids : Ids} : ids.Keeps (name mark n) ↔ ids.count mark < n := by
  constructor
  · rintro ⟨mark', n', hlt, h⟩
    obtain ⟨rfl, rfl⟩ := name_inj.mp h
    exact hlt
  · exact fun hlt => ⟨mark, n, hlt, rfl⟩

theorem count_next (mark mark' : Mark) (ids : Ids) :
    (ids.next mark).2.count mark' = ids.count mark' + if mark' = mark then 1 else 0 := by
  cases mark <;> cases mark' <;> rfl

/-- At least as many names of each mark have been given out. -/
def Grown (ids left : Ids) : Prop := ∀ mark, ids.count mark ≤ left.count mark

theorem Grown.refl (ids : Ids) : ids.Grown ids := fun _ => Nat.le_refl _

theorem Grown.trans {ids between left : Ids} (h : ids.Grown between) (h' : between.Grown left) :
    ids.Grown left :=
  fun mark => Nat.le_trans (h mark) (h' mark)

theorem next_grown (mark : Mark) (ids : Ids) : ids.Grown (ids.next mark).2 := by
  intro mark'
  rw [count_next]
  exact Nat.le_add_right _ _

/-! ### Other names -/

/-- A renaming of names that are still to be given out: it takes each of them to one of the same
mark and no two to one, and leaves every other text as it is. -/
structure Renews (ids : Ids) (f : String → String) : Prop where
  injective : Function.Injective f
  fresh : ∀ mark n, ids.count mark < n → ∃ n', ids.count mark < n' ∧ f (name mark n) = name mark n'
  old : ∀ a, ¬ ids.Keeps a → f a = a

variable {ids left : Ids} {f : String → String}

theorem Keeps.of_grown {a : String} (h : left.Keeps a) (grown : ids.Grown left) : ids.Keeps a := by
  obtain ⟨mark, n, hlt, rfl⟩ := h
  exact ⟨mark, n, Nat.lt_of_le_of_lt (grown mark) hlt, rfl⟩

theorem Renews.of_grown (h : left.Renews f) (grown : ids.Grown left) : ids.Renews f := by
  refine ⟨h.injective, fun mark n hlt => ?_, fun a hold => h.old a fun hkept =>
    hold (hkept.of_grown grown)⟩
  by_cases hleft : left.count mark < n
  · obtain ⟨n', hlt', hname⟩ := h.fresh mark n hleft
    exact ⟨n', Nat.lt_of_le_of_lt (grown mark) hlt', hname⟩
  · exact ⟨n, hlt, h.old _ fun hkept => hleft (keeps_name_iff.mp hkept)⟩

theorem renews_id (ids : Ids) : ids.Renews id :=
  ⟨Function.injective_id, fun _ n hlt => ⟨n, hlt, rfl⟩, fun _ _ => rfl⟩

/-- The names that are still to be given out can be moved on by any number for each mark. -/
theorem exists_renews (ids : Ids) (ahead : Mark → Nat) : ∃ f, ids.Renews f ∧
    ∀ mark n, ids.count mark < n → f (name mark n) = name mark (n + ahead mark) := by
  have hmoved : ∀ a, ∃ b, (∀ mark n, ids.count mark < n → a = name mark n →
      b = name mark (n + ahead mark)) ∧ (¬ ids.Keeps a → b = a) := by
    intro a
    by_cases hkept : ids.Keeps a
    · obtain ⟨mark, n, hlt, rfl⟩ := hkept
      refine ⟨name mark (n + ahead mark), fun mark' n' _ heq => ?_,
        fun hold => absurd (keeps_name_iff.mpr hlt) hold⟩
      obtain ⟨rfl, rfl⟩ := name_inj.mp heq
      rfl
    · exact ⟨a, fun mark n hlt heq => absurd ⟨mark, n, hlt, heq⟩ hkept, fun _ => rfl⟩
  choose f hnew hold using hmoved
  refine ⟨f, ⟨fun a b heq => ?_, fun mark n hlt => ⟨n + ahead mark, Nat.lt_add_right _ hlt,
    hnew _ mark n hlt rfl⟩, hold⟩, fun mark n hlt => hnew _ mark n hlt rfl⟩
  -- a name that is moved is still to be given out, so it meets none that stays
  by_cases ha : ids.Keeps a <;> by_cases hb : ids.Keeps b
  · obtain ⟨mark, n, hlt, rfl⟩ := ha
    obtain ⟨mark', n', hlt', rfl⟩ := hb
    rw [hnew _ mark n hlt rfl, hnew _ mark' n' hlt' rfl] at heq
    obtain ⟨rfl, hsum⟩ := name_inj.mp heq
    rw [Nat.add_right_cancel hsum]
  · obtain ⟨mark, n, hlt, rfl⟩ := ha
    rw [hnew _ mark n hlt rfl, hold b hb] at heq
    exact absurd ⟨mark, _, Nat.lt_add_right _ hlt, heq.symm⟩ hb
  · obtain ⟨mark, n, hlt, rfl⟩ := hb
    rw [hnew _ mark n hlt rfl, hold a ha] at heq
    exact absurd ⟨mark, _, Nat.lt_add_right _ hlt, heq⟩ ha
  · rw [hold a ha, hold b hb] at heq
    exact heq

end Ids

/-- What is told of a failure: all but its details. -/
def Failure.bare : Failure → Failure
  | .refused r => .refused { r with details := [] }
  | f => f

/-- A renaming of texts, for a supply of names that runs ahead of another one. -/
structure Renaming where
  map : String → String
  injective : Function.Injective map
  /-- By how many names of each mark the supply runs ahead. -/
  ahead : Mark → Nat

namespace Renaming

variable {ρ : Renaming} {ids between left ids' : Ids}

/-- The second supply runs ahead of the first one. -/
def Ahead (ρ : Renaming) (ids ids' : Ids) : Prop :=
  ∀ mark, ids'.count mark = ids.count mark + ρ.ahead mark

/-- The names that one supply gives out are carried to those that the supply ahead of it gives out
in their place. -/
def Moves (ρ : Renaming) (ids left : Ids) : Prop :=
  ∀ mark n, ids.count mark < n → n ≤ left.count mark →
    ρ.map (Ids.name mark n) = Ids.name mark (n + ρ.ahead mark)

theorem Moves.first (h : ρ.Moves ids left) (grown : between.Grown left) : ρ.Moves ids between :=
  fun mark n hlt hle => h mark n hlt (Nat.le_trans hle (grown mark))

theorem Moves.second (h : ρ.Moves ids left) (grown : ids.Grown between) : ρ.Moves between left :=
  fun mark n hlt hle => h mark n (Nat.lt_of_le_of_lt (grown mark) hlt) hle

end Renaming

namespace Work

variable {α β γ δ : Type} {ρ : Renaming} {g : α → β} {k : γ → δ}

/-- Values that correspond, or failures that are told alike. -/
inductive Echo (g : α → β) : Except Failure α → Except Failure β → Prop
  | value (a : α) : Echo g (.ok a) (.ok (g a))
  | failure {f f' : Failure} (alike : f.bare = f'.bare) : Echo g (.error f) (.error f')

/-- The second work makes, on a supply that runs ahead, what the first one makes, under the names to
which the renaming carries those of the first. -/
def Renamed (ρ : Renaming) (g : α → β) (w : Work α) (w' : Work β) : Prop :=
  ∀ ids, ids.Grown (w.outcome ids).2 ∧
    ∀ ids', ρ.Ahead ids ids' → ρ.Moves ids (w.outcome ids).2 →
      ρ.Ahead (w.outcome ids).2 (w'.outcome ids').2 ∧
        Echo g (w.outcome ids).1 (w'.outcome ids').1

theorem Renamed.state {m : StateM Ids α} {m' : StateM Ids β}
    (h : Renamed ρ g (ExceptT.lift m) (ExceptT.lift m')) (ids : Ids) :
    ids.Grown (m ids).2 ∧
      ∀ ids', ρ.Ahead ids ids' → ρ.Moves ids (m ids).2 → (m' ids').1 = g (m ids).1 := by
  have hvalues : ∀ {a : α} {b : β}, Echo g (.ok a) (.ok b) → b = g a := by
    intro a b hecho
    cases hecho
    rfl
  obtain ⟨hgrown, hechoes⟩ := h ids
  exact ⟨hgrown, fun ids' ahead moves => hvalues (hechoes ids' ahead moves).2⟩

/-! ## The parts -/

theorem lift_renamed {x : Except Failure α} {x' : Except Failure β} (h : Echo g x x') :
    Renamed ρ g (lift x) (lift x') :=
  fun ids => ⟨Ids.Grown.refl ids, fun _ ahead _ => ⟨ahead, h⟩⟩

theorem echo_map (g : α → β) (x : Except Failure α) : Echo g x (x.map g) := by
  cases x with
  | ok a => exact .value a
  | error f => exact .failure rfl

theorem echo_id (x : Except Failure α) : Echo id x x := by
  cases x with
  | ok a => exact .value a
  | error f => exact .failure rfl

theorem lift_renamed_id (x : Except Failure α) : Renamed ρ id (lift x) (lift x) :=
  lift_renamed (echo_id x)

theorem pure_renamed {a : α} {b : β} (h : g a = b) : Renamed ρ g (pure a) (pure b) := by
  subst h
  exact lift_renamed (.value a)

theorem throw_renamed {f f' : Failure} (h : f.bare = f'.bare) :
    Renamed ρ g (throw f) (throw f') :=
  lift_renamed (.failure h)

theorem fresh_renamed (mark : Mark) : Renamed ρ ρ.map (fresh mark) (fresh mark) := by
  intro ids
  refine ⟨Ids.next_grown mark ids, fun ids' ahead moves => ⟨fun mark' => ?_, ?_⟩⟩
  · change (ids'.next mark).2.count mark' = (ids.next mark).2.count mark' + _
    rw [Ids.count_next, Ids.count_next, ahead mark']
    omega
  · have hmoved : ρ.map (ids.next mark).1 = (ids'.next mark).1 := by
      have hlast : ids.count mark + 1 ≤ (ids.next mark).2.count mark := by
        simp [Ids.count_next]
      have hname := moves mark (ids.count mark + 1) (Nat.lt_succ_self _) hlast
      change ρ.map (Ids.name mark (ids.count mark + 1)) = Ids.name mark (ids'.count mark + 1)
      rw [hname, ahead mark, Nat.add_right_comm]
    change Echo ρ.map (.ok (ids.next mark).1) (.ok (ids'.next mark).1)
    rw [← hmoved]
    exact .value _

/-! ## One after another -/

theorem bind_renamed {w : Work α} {w' : Work β} {next : α → Work γ} {next' : β → Work δ}
    (h : Renamed ρ g w w') (hnext : ∀ a, Renamed ρ k (next a) (next' (g a))) :
    Renamed ρ k (w >>= next) (w' >>= next') := by
  intro ids
  obtain ⟨hgrown, hechoes⟩ := h ids
  rw [outcome_bind]
  rcases hw : w.outcome ids with ⟨f | a, between⟩
  · rw [hw] at hgrown hechoes
    refine ⟨hgrown, fun ids' ahead moves => ?_⟩
    obtain ⟨hahead, hecho⟩ := hechoes ids' ahead moves
    rw [outcome_bind]
    rcases hw' : w'.outcome ids' with ⟨result, between'⟩
    rw [hw'] at hahead hecho
    cases hecho with
    | failure alike => exact ⟨hahead, .failure alike⟩
  · rw [hw] at hgrown hechoes
    -- the supply only grows, so the names of both parts are among those that are moved
    obtain ⟨hlater, hechoes'⟩ := hnext a between
    refine ⟨hgrown.trans hlater, fun ids' ahead moves => ?_⟩
    obtain ⟨hahead, hecho⟩ := hechoes ids' ahead (moves.first hlater)
    rw [outcome_bind]
    rcases hw' : w'.outcome ids' with ⟨result, between'⟩
    rw [hw'] at hahead hecho
    cases hecho with
    | value => exact hechoes' between' hahead (moves.second hgrown)

theorem lift_bind_renamed {x : Except Failure α} {next : α → Work γ} {next' : α → Work δ}
    (hnext : ∀ a, Renamed ρ k (next a) (next' a)) :
    Renamed ρ k (lift x >>= next) (lift x >>= next') :=
  bind_renamed (lift_renamed_id x) hnext

theorem throw_bind_renamed {f f' : Failure} {next : α → Work γ} {next' : β → Work δ}
    (h : f.bare = f'.bare) : Renamed ρ k (throw f >>= next) (throw f' >>= next') :=
  throw_renamed h

theorem state_bind_renamed {m : StateM Ids α} {m' : StateM Ids β} {next : α → StateM Ids γ}
    {next' : β → StateM Ids δ} (h : Renamed ρ g (ExceptT.lift m) (ExceptT.lift m'))
    (hnext : ∀ a, Renamed ρ k (ExceptT.lift (next a)) (ExceptT.lift (next' (g a)))) :
    Renamed ρ k (ExceptT.lift (m >>= next)) (ExceptT.lift (m' >>= next')) := by
  have hlift : ∀ {α β : Type} (m : StateM Ids α) (next : α → StateM Ids β),
      (ExceptT.lift (m >>= next) : Work β) = ExceptT.lift m >>= fun a => ExceptT.lift (next a) := by
    intro α β m next
    rfl
  rw [hlift, hlift]
  exact bind_renamed h hnext

theorem caught_renamed {w : Work α} {w' : Work β} {next : Except Failure α → StateM Ids γ}
    {next' : Except Failure β → StateM Ids δ} (h : Renamed ρ g w w')
    (hnext : ∀ x x', Echo g x x' →
      Renamed ρ k (ExceptT.lift (next x)) (ExceptT.lift (next' x'))) :
    Renamed ρ k (ExceptT.lift (w.run >>= next)) (ExceptT.lift (w'.run >>= next')) := by
  intro ids
  obtain ⟨hgrown, hechoes⟩ := h ids
  have hlater := (hnext _ _ (echo_map g (w.outcome ids).1) (w.outcome ids).2).1
  refine ⟨hgrown.trans hlater, fun ids' ahead moves => ?_⟩
  obtain ⟨hahead, hecho⟩ := hechoes ids' ahead (moves.first hlater)
  exact (hnext _ _ hecho (w.outcome ids).2).2 (w'.outcome ids').2 hahead (moves.second hgrown)

theorem ite_renamed {p : Prop} [Decidable p] {w v : Work α} {w' v' : Work β}
    (h : p → Renamed ρ g w w') (h' : ¬ p → Renamed ρ g v v') :
    Renamed ρ g (if p then w else v) (if p then w' else v') := by
  split
  · rename_i hp
    exact h hp
  · rename_i hp
    exact h' hp

end Work
end Formwork
