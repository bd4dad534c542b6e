import Formwork.Proofs.Condition.Sides
/-!
# What a question about two sides comes to

A comparison asks questions, each about two sides: whether they are equal, whether their order
passes a test, or what their texts have to do with each other. An empty side has no order and equals
an empty one only, so nothing is read then. Otherwise both sides are read, the left one first, and
there is an answer; or none, because a side names nothing of the declared type or is a pattern with a
fault; or a failure, because a side fails or a pattern is broken off. The second and the third are
told from the sides here.
-/
namespace Formwork

open Calendar

/-! ## Questions -/

/-- What a pattern with the fault comes to where one asks for it, if that is not to have no answer. -/
def Pattern.Fault.failure? : Pattern.Fault → Option Failure
  | .breach b => some (.pattern b)
  | .bad _ _ | .unevenLookBehind | .farLookBehind => none

/-- What is asked about two sides. -/
inductive Inquiry where
  /-- Whether they are equal. -/
  | equality
  /-- Whether their order passes a test. -/
  | order (test : Ordering → Bool)
  /-- Whether the left one has the right one as a member or a part. -/
  | part
  /-- Whether their texts pass a test. -/
  | texts (test : List Char → List Char → Bool)
  /-- Whether the right one is a pattern that is found in the left one. -/
  | pattern

/-- Both sides are read as the declared type, rather than as texts. -/
def Inquiry.isTyped : Inquiry → Bool
  | equality | order _ => true
  | part | texts _ | pattern => false

structure Question where
  left : Operand
  right : Value
  inquiry : Inquiry := .equality

namespace Question

variable {host : Host} {type : ValueType} {q : Question} {f : Failure}

def answer (host : Host) (type : ValueType) (q : Question) : Reading Bool :=
  match q.inquiry with
  | .equality => q.left.equals host type q.right
  | .order test => q.left.ordered host type test q.right
  | .part => q.left.contains q.right
  | .texts test => q.left.comparesTexts test q.right
  | .pattern => q.left.matchesPattern host q.right

/-- Both sides are there, so that they are read as the declared type. -/
structure Meets (q : Question) : Prop where
  typed : q.inquiry.isTyped = true
  left : q.left.isEmpty = false
  right : q.right.isEmpty = false

/-- The left side is there, so that both are written. A list has members rather than parts, and is
not. -/
structure Writes (q : Question) : Prop where
  untyped : q.inquiry.isTyped = false
  left : q.left.isEmpty = false
  parts : q.inquiry = .part → ∀ items, q.left ≠ .value (.list items)

/-- Both sides have texts, of which the right one is a pattern that cannot be read. -/
structure Misreads (host : Host) (q : Question) (fault : Pattern.Fault) : Prop where
  writes : q.Writes
  pattern : q.inquiry = .pattern
  subject : q.left.isWritable = true
  fault : ∃ p, q.right.display = .ok p ∧ Pattern.read host p = .error fault

/-- The question has no answer: one of the sides names nothing of the declared type, or is a pattern
with a fault. -/
inductive Unreadable (host : Host) (type : ValueType) (q : Question) : Prop where
  | left (meets : q.Meets) (declared : type ≠ .auto) (nothing : q.left.NamesNothing host type)
  | right (meets : q.Meets) (declared : type ≠ .auto) (named : q.left.Names host type)
    (nothing : (Operand.value q.right).NamesNothing host type)
  | pattern {fault : Pattern.Fault} (misreads : q.Misreads host fault)
    (faulty : fault.failure? = none)

/-- Two sides that are put in an order of an open type are no two numbers. -/
structure NotNumbers (q : Question) : Prop where
  meets : q.Meets
  ordered : q.inquiry ≠ .equality
  free : ∃ x y, q.left.number? = .ok x ∧ q.right.number? = .ok y ∧ (x = none ∨ y = none)

/-- Neither are they two instants, so that both are written. -/
structure NotInstants (host : Host) (q : Question) : Prop extends q.NotNumbers where
  undated : ∃ i j, q.left.instant? host.clock = .ok i ∧ q.right.instant? host.clock = .ok j ∧
    (i = none ∨ j = none)

/-- The question comes to a failure. Sides are read as the declared type, the left one first. Where
that is open, both sides are read as numbers, unless they are asked to be equal and say the same;
and to be put in order, as instants, unless both are numbers, and as texts, unless both are instants.
Where the texts of both are asked for, both must have one, and a pattern must not be broken off. -/
inductive Strains (host : Host) (q : Question) : ValueType → Failure → Prop where
  | left {type : ValueType} {f : Failure} (meets : q.Meets) (declared : type ≠ .auto)
    (fails : q.left.Fails type f) : Strains host q type f
  | right {type : ValueType} {f : Failure} (meets : q.Meets) (declared : type ≠ .auto)
    (named : q.left.Names host type) (fails : (Operand.value q.right).Fails type f) :
    Strains host q type f
  | number {f : Failure} (meets : q.Meets)
    (differ : q.inquiry = .equality → q.left.same q.right = false)
    (far : q.left.Exceeds .number f ∨ (Operand.value q.right).Exceeds .number f) :
    Strains host q .auto f
  | instant {f : Failure} (free : q.NotNumbers)
    (far : q.left.Exceeds .date f ∨ (Operand.value q.right).Exceeds .date f) :
    Strains host q .auto f
  | text (undated : q.NotInstants host)
    (long : q.left.isWritable = false ∨ q.right.isWritable = false) :
    Strains host q .auto .tooManyDigits
  | written {type : ValueType} (writes : q.Writes)
    (long : q.left.isWritable = false ∨ q.right.isWritable = false) :
    Strains host q type .tooManyDigits
  | pattern {type : ValueType} {f : Failure} {fault : Pattern.Fault}
    (misreads : q.Misreads host fault) (broken : fault.failure? = some f) : Strains host q type f

/-! ### Declared types -/

/-- Both sides as the declared type. -/
def sides (host : Host) (type : ValueType) (q : Question) : Reading (Comparable × Comparable) := do
  pure (← q.left.readAs host type, ← (Operand.value q.right).readAs host type)

theorem sides_run_eq_stuck_iff (why : Option Failure) :
    (q.sides host type).run = Reading.stuck why ↔
      (q.left.readAs host type).run = Reading.stuck why ∨
        q.left.Names host type ∧
          ((Operand.value q.right).readAs host type).run = Reading.stuck why := by
  unfold sides
  simp only [Reading.bind_run_eq_stuck_iff, Reading.pure_run_ne_stuck, and_false, exists_false,
    or_false, Operand.Names, exists_and_right]

theorem sides_run_eq_error_iff : (q.sides host type).run = .error f ↔
    q.left.Fails type f ∨ q.left.Names host type ∧ (Operand.value q.right).Fails type f := by
  have hfails (o : Operand) : (o.readAs host type).run = .error f ↔ o.Fails type f :=
    Operand.readAs_run_eq_error_iff type o f
  rw [← hfails, ← hfails]
  exact sides_run_eq_stuck_iff (some f)

theorem sides_run_eq_none_iff : (q.sides host type).run = .ok none ↔
    q.left.NamesNothing host type ∨
      q.left.Names host type ∧ (Operand.value q.right).NamesNothing host type := by
  rw [← Operand.readAs_run_eq_none_iff, ← Operand.readAs_run_eq_none_iff]
  exact sides_run_eq_stuck_iff none

/-- What is asked of the two sides. -/
def judge (q : Question) (sides : Comparable × Comparable) : Bool :=
  match q.inquiry with
  | .order test => (sides.1.order? sides.2).any test
  | _ => sides.1.order? sides.2 == some .eq

theorem answer_declared (hmeets : q.Meets) (hdeclared : type ≠ .auto) :
    q.answer host type = (do pure (q.judge (← q.sides host type))) := by
  obtain ⟨htyped, hleft, hright⟩ := hmeets
  unfold answer sides judge
  cases hinquiry : q.inquiry with
  | equality =>
    simp only [Operand.equals, hleft, hright, Bool.or_self, Bool.false_eq_true, ↓reduceIte,
      bind_assoc, pure_bind]
  | order test =>
    simp only [Operand.ordered, hleft, hright, Bool.or_self, Bool.false_eq_true, ↓reduceIte,
      bind_assoc, pure_bind]
  | part | texts _ | pattern =>
    rw [hinquiry] at htyped
    cases htyped

/-! ### Open types -/

section Both

variable {α β : Type} {x y : Except Failure (Option α)}
  {next : Option α → Option α → Except Failure (Option β)}

theorem both_eq_error_iff (hunique : ∀ g g', x = .error g → y = .error g' → g = g') :
    (do next (← x) (← y)) = .error f ↔ (x = .error f ∨ y = .error f) ∨
      ∃ a b, x = .ok a ∧ y = .ok b ∧ next a b = .error f := by
  rcases x with g | a
  · rcases y with g' | b
    · have := hunique g g' rfl rfl
      simp [this, Work.except_error_bind]
    · simp [Work.except_error_bind]
  · rcases y with g' | b
    · simp [Work.except_ok_bind, Work.except_error_bind]
    · simp [Work.except_ok_bind]

theorem both_ne_none (hnext : ∀ a b, next a b ≠ .ok none) : (do next (← x) (← y)) ≠ .ok none := by
  intro h
  obtain ⟨a, -, h⟩ := Work.except_bind_eq_ok_iff.mp h
  obtain ⟨b, -, h⟩ := Work.except_bind_eq_ok_iff.mp h
  exact hnext a b h

end Both

/-- Numbers that are too large fail in one way, and so do instants off the calendar. -/
theorem numbers_fail_alike (left : Operand) (right : Value) (g g' : Failure)
    (h : left.number? = .error g) (h' : right.number? = .error g') : g = g' :=
  ((left.number?_eq_error_iff g).mp h).unique ((right.number?_eq_error_iff g').mp h')

theorem instants_fail_alike (clock : Clock) (left : Operand) (right : Value) (g g' : Failure)
    (h : left.instant? clock = .error g) (h' : right.instant? clock = .error g') : g = g' :=
  ((left.instant?_eq_error_iff clock g).mp h).unique ((right.instant?_eq_error_iff clock g').mp h')

theorem equals_open_eq_error_iff {left : Operand} {right : Value} (hleft : left.isEmpty = false)
    (hright : right.isEmpty = false) :
    (left.equals host .auto right).run = .error f ↔ left.same right = false ∧
      (left.Exceeds .number f ∨ (Operand.value right).Exceeds .number f) := by
  simp only [Operand.equals, hleft, hright, Bool.or_self, Bool.false_eq_true, ↓reduceIte]
  cases hsame : left.same right with
  | true => simp only [↓reduceIte, Reading.pure_run, reduceCtorEq, Bool.true_eq_false, false_and]
  | false =>
    simp only [Bool.false_eq_true, ↓reduceIte, OptionT.run_mk, true_and]
    rw [both_eq_error_iff (numbers_fail_alike left right), left.number?_eq_error_iff,
      right.number?_eq_error_iff, or_iff_left]
    rintro ⟨x, y, -, -, h⟩
    split at h <;> cases h

theorem texts_eq_error_iff {α : Type} (left right : Operand) {make : String → String → α} :
    (do pure (make (← left.display) (← right.display)) : Except Failure α) = .error f ↔
      (left.isWritable = false ∨ right.isWritable = false) ∧ f = .tooManyDigits := by
  cases hleft : left.display with
  | error g =>
    obtain ⟨hlong, rfl⟩ := (left.display_eq_error_iff g).mp hleft
    rw [Work.except_error_bind, and_iff_right (.inl hlong), Except.error.injEq, eq_comm]
  | ok s =>
    have hwritten := left.exists_display.mp ⟨s, hleft⟩
    rw [Work.except_ok_bind, hwritten, or_iff_right Bool.noConfusion, ← right.display_eq_error_iff]
    cases right.display <;> simp [Work.except_error_bind, Work.except_ok_bind, pure, Except.pure]

theorem free_of_not_both {α : Type} {x y : Option α}
    (h : ∀ a b, x = some a → y = some b → False) : x = none ∨ y = none := by
  cases x with
  | none => exact .inl rfl
  | some a =>
    cases y with
    | none => exact .inr rfl
    | some b => exact (h a b rfl rfl).elim

theorem alike_eq_error_iff (left : Operand) (right : Value) :
    (left.alike host right).run = .error f ↔
      (left.Exceeds .number f ∨ (Operand.value right).Exceeds .number f) ∨
      ∃ x y, left.number? = .ok x ∧ right.number? = .ok y ∧ (x = none ∨ y = none) ∧
        ((left.Exceeds .date f ∨ (Operand.value right).Exceeds .date f) ∨
        ∃ i j, left.instant? host.clock = .ok i ∧ right.instant? host.clock = .ok j ∧
          (i = none ∨ j = none) ∧
          (left.isWritable = false ∨ right.isWritable = false) ∧ f = .tooManyDigits) := by
  unfold Operand.alike
  rw [OptionT.run_mk, both_eq_error_iff (numbers_fail_alike left right),
    left.number?_eq_error_iff, right.number?_eq_error_iff]
  refine or_congr_right (exists_congr fun x => exists_congr fun y => and_congr_right fun _ =>
    and_congr_right fun _ => ?_)
  split
  · simp [pure, Except.pure]
  · rename_i hnumbers
    rw [and_iff_right (free_of_not_both hnumbers),
      both_eq_error_iff (instants_fail_alike host.clock left right), left.instant?_eq_error_iff,
      right.instant?_eq_error_iff]
    refine or_congr_right (exists_congr fun i => exists_congr fun j => and_congr_right fun _ =>
      and_congr_right fun _ => ?_)
    split
    · simp [pure, Except.pure]
    · rename_i hinstants
      rw [and_iff_right (free_of_not_both hinstants)]
      exact texts_eq_error_iff left (.value right)

theorem ordered_open_eq_error_iff {test : Ordering → Bool} {left : Operand} {right : Value}
    (hleft : left.isEmpty = false) (hright : right.isEmpty = false) :
    (left.ordered host .auto test right).run = .error f ↔
      (left.alike host right).run = .error f := by
  simp only [Operand.ordered, hleft, hright, Bool.or_self, Bool.false_eq_true, ↓reduceIte]
  simp only [Reading.bind_run_eq_error_iff, Reading.pure_run, reduceCtorEq, and_false,
    exists_false, or_false]

theorem alike_ne_none (left : Operand) (right : Value) :
    (left.alike host right).run ≠ .ok none := by
  unfold Operand.alike
  rw [OptionT.run_mk]
  apply both_ne_none
  intro x y
  split
  · rintro ⟨⟩
  · apply both_ne_none
    intro i j
    split
    · rintro ⟨⟩
    · intro h
      obtain ⟨s, -, h⟩ := Work.except_bind_eq_ok_iff.mp h
      obtain ⟨t, -, ⟨⟩⟩ := Work.except_bind_eq_ok_iff.mp h

theorem answer_open_ne_none (htyped : q.inquiry.isTyped = true) :
    (q.answer host .auto).run ≠ .ok none := by
  unfold answer
  cases hinquiry : q.inquiry with
  | equality =>
    dsimp only [Operand.equals]
    split
    · rintro ⟨⟩
    · split
      · rintro ⟨⟩
      · rw [OptionT.run_mk]
        apply both_ne_none
        intro x y
        split <;> rintro ⟨⟩
  | order test =>
    dsimp only [Operand.ordered]
    split
    · rintro ⟨⟩
    · rw [Ne, Reading.bind_run_eq_none_iff]
      rintro (h | ⟨_, _, ⟨⟩⟩)
      exact alike_ne_none _ _ h
  | part | texts _ | pattern =>
    rw [hinquiry] at htyped
    cases htyped

/-! ### Typed questions -/

theorem answer_not_meets (htyped : q.inquiry.isTyped = true) (h : ¬ q.Meets) :
    ∃ b, (q.answer host type).run = .ok (some b) := by
  have hempty : (q.left.isEmpty || q.right.isEmpty) = true := by
    by_contra hfull
    simp only [Bool.or_eq_true, not_or, Bool.not_eq_true] at hfull
    exact h ⟨htyped, hfull.1, hfull.2⟩
  unfold answer
  cases hinquiry : q.inquiry with
  | equality =>
    refine ⟨q.left.isEmpty && q.right.isEmpty, ?_⟩
    simp only [Operand.equals, hempty, ↓reduceIte, Reading.pure_run]
  | order test =>
    refine ⟨false, ?_⟩
    simp only [Operand.ordered, hempty, ↓reduceIte, Reading.pure_run]
  | part | texts _ | pattern =>
    rw [hinquiry] at htyped
    cases htyped

theorem Meets.not_writes (h : q.Meets) (h' : q.Writes) : False :=
  Bool.false_ne_true (h'.untyped.symm.trans h.typed)

theorem answer_declared_eq_error_iff (hmeets : q.Meets) (hdeclared : type ≠ .auto) :
    (q.answer host type).run = .error f ↔ q.Strains host type f := by
  rw [answer_declared hmeets hdeclared]
  simp only [Reading.bind_run_eq_error_iff, Reading.pure_run, sides_run_eq_error_iff,
    reduceCtorEq, and_false, exists_false, or_false]
  constructor
  · rintro (fails | ⟨named, fails⟩)
    · exact .left hmeets hdeclared fails
    · exact .right hmeets hdeclared named fails
  · intro h
    cases h with
    | left _ _ fails => exact .inl fails
    | right _ _ named fails => exact .inr ⟨named, fails⟩
    | number | instant | text => exact absurd rfl hdeclared
    | written writes => exact (hmeets.not_writes writes).elim
    | pattern misreads => exact (hmeets.not_writes misreads.writes).elim

theorem answer_open_eq_error_iff (hmeets : q.Meets) :
    (q.answer host .auto).run = .error f ↔ q.Strains host .auto f := by
  unfold answer
  cases hinquiry : q.inquiry with
  | equality =>
    dsimp only
    rw [equals_open_eq_error_iff hmeets.left hmeets.right]
    constructor
    · rintro ⟨hsame, far⟩
      exact .number hmeets (fun _ => hsame) far
    · intro h
      cases h with
      | left _ declared | right _ declared => exact absurd rfl declared
      | number _ differ far => exact ⟨differ hinquiry, far⟩
      | instant free => exact absurd hinquiry free.ordered
      | text undated => exact absurd hinquiry undated.ordered
      | written writes => exact (hmeets.not_writes writes).elim
      | pattern misreads => exact (hmeets.not_writes misreads.writes).elim
  | order test =>
    have ordered : q.inquiry ≠ .equality := by simp [hinquiry]
    dsimp only
    rw [ordered_open_eq_error_iff hmeets.left hmeets.right, alike_eq_error_iff]
    constructor
    · rintro (far | ⟨x, y, hx, hy, free, far | ⟨i, j, hi, hj, undated, long, rfl⟩⟩)
      · exact .number hmeets (fun h => absurd h ordered) far
      · exact .instant ⟨hmeets, ordered, x, y, hx, hy, free⟩ far
      · exact .text ⟨⟨hmeets, ordered, x, y, hx, hy, free⟩, i, j, hi, hj, undated⟩ long
    · intro h
      cases h with
      | left _ declared | right _ declared => exact absurd rfl declared
      | number _ _ far => exact .inl far
      | instant free far =>
        obtain ⟨x, y, hx, hy, hfree⟩ := free.free
        exact .inr ⟨x, y, hx, hy, hfree, .inl far⟩
      | text undated long =>
        obtain ⟨x, y, hx, hy, hfree⟩ := undated.free
        obtain ⟨i, j, hi, hj, hundated⟩ := undated.undated
        exact .inr ⟨x, y, hx, hy, hfree, .inr ⟨i, j, hi, hj, hundated, long, rfl⟩⟩
      | written writes => exact (hmeets.not_writes writes).elim
      | pattern misreads => exact (hmeets.not_writes misreads.writes).elim
  | part | texts _ | pattern =>
    have htyped := hmeets.typed
    rw [hinquiry] at htyped
    cases htyped

/-! ### Questions about texts -/

theorem matchesPattern_of_texts {left : Operand} {right : Value} {whole p : String}
    (hleft : left.isEmpty = false) (hp : right.display = .ok p) (hwhole : left.display = .ok whole) :
    (left.matchesPattern host right).run =
      match Pattern.read host p with
      | .ok node => .ok (some (node.isIn whole))
      | .error (.breach breach) => .error (.pattern breach)
      | .error _ => .ok none := by
  rw [Operand.matchesPattern, hleft, hp, hwhole]
  change (match Pattern.read host p with
    | .ok node => pure (node.isIn whole)
    | .error (.breach breach) => OptionT.mk (.error (.pattern breach))
    | .error _ => OptionT.mk (.ok none) : Reading Bool).run = _
  split <;> rfl

theorem matchesPattern_of_long {left : Operand} {right : Value} (hleft : left.isEmpty = false)
    (long : left.isWritable = false ∨ right.isWritable = false) :
    (left.matchesPattern host right).run = .error .tooManyDigits := by
  rw [Operand.matchesPattern, hleft]
  cases hright : right.display with
  | error g =>
    obtain ⟨-, rfl⟩ := Value.display_eq_error.mp hright
    rfl
  | ok p =>
    have hwritten : right.isWritable = true := (Operand.value right).exists_display.mp ⟨p, hright⟩
    have hlong : left.isWritable = false := long.resolve_right (by simpa using hwritten)
    rw [(left.display_eq_error_iff _).mpr ⟨hlong, rfl⟩]
    rfl

theorem contains_of_parts {left : Operand} {right : Value} (hleft : left.isEmpty = false)
    (hparts : ∀ items, left ≠ .value (.list items)) : left.contains right = (do
      let part ← right.display
      let whole ← left.display
      pure (Operand.hasPart (Text.lower part).toList (Text.lower whole).toList)) := by
  cases left with
  | moment i => rfl
  | value v =>
    cases v with
    | list items => exact (hparts items rfl).elim
    | null => cases hleft
    | bool _ | int _ | float _ | text _ | map _ =>
      rw [Operand.contains, hleft]
      · rfl
      · exact hparts

theorem answer_not_writes (huntyped : q.inquiry.isTyped = false) (h : ¬ q.Writes) :
    ∃ b, (q.answer host type).run = .ok (some b) := by
  unfold answer
  cases hleft : q.left.isEmpty with
  | true =>
    refine ⟨false, ?_⟩
    cases hinquiry : q.inquiry with
    | equality | order test =>
      rw [hinquiry] at huntyped
      cases huntyped
    | part =>
      simp only [Operand.contains, hleft, ↓reduceIte]
      rfl
    | texts test =>
      simp only [Operand.comparesTexts, hleft, ↓reduceIte]
      rfl
    | pattern =>
      simp only [Operand.matchesPattern, hleft, ↓reduceIte]
      rfl
  | false =>
    obtain ⟨hpart, items, hitems⟩ : q.inquiry = .part ∧ ∃ items, q.left = .value (.list items) := by
      by_contra hnot
      refine h ⟨huntyped, hleft, fun hpart items hitems => hnot ⟨hpart, items, hitems⟩⟩
    refine ⟨q.right.isIn items, ?_⟩
    rw [hitems] at hleft
    rw [hpart, hitems]
    simp only [Operand.contains, hleft, Bool.false_eq_true, ↓reduceIte]
    rfl

theorem answer_of_long (writes : q.Writes)
    (long : q.left.isWritable = false ∨ q.right.isWritable = false) :
    (q.answer host type).run = .error .tooManyDigits := by
  unfold answer
  cases hinquiry : q.inquiry with
  | equality | order test =>
    have huntyped := writes.untyped
    rw [hinquiry] at huntyped
    cases huntyped
  | part =>
    rw [Reading.lift_run_eq_error_iff, contains_of_parts writes.left (writes.parts hinquiry)]
    exact (texts_eq_error_iff (.value q.right) q.left).mpr ⟨long.symm, rfl⟩
  | texts test =>
    rw [Reading.lift_run_eq_error_iff, Operand.comparesTexts, writes.left,
      if_neg Bool.false_ne_true]
    exact (texts_eq_error_iff q.left (.value q.right)).mpr ⟨long, rfl⟩
  | pattern => exact matchesPattern_of_long writes.left long

/-- Two texts have an answer to every question but whether the one is a pattern found in the other. -/
theorem answer_of_texts {whole p : String} (writes : q.Writes) (hp : q.right.display = .ok p)
    (hwhole : q.left.display = .ok whole) (hnot : q.inquiry ≠ .pattern) :
    ∃ b, (q.answer host type).run = .ok (some b) := by
  unfold answer
  cases hinquiry : q.inquiry with
  | equality | order test =>
    have huntyped := writes.untyped
    rw [hinquiry] at huntyped
    cases huntyped
  | part =>
    simp only [Reading.lift_run_eq_some_iff, contains_of_parts writes.left (writes.parts hinquiry),
      hp, hwhole]
    exact ⟨_, rfl⟩
  | texts test =>
    simp only [Reading.lift_run_eq_some_iff, Operand.comparesTexts, writes.left,
      Bool.false_eq_true, ↓reduceIte, hp, hwhole]
    exact ⟨_, rfl⟩
  | pattern => exact (hnot hinquiry).elim

/-- What a question about texts comes to: a side has none, or the pattern cannot be read, or there is
an answer. -/
theorem answer_written_cases (host : Host) (type : ValueType) (writes : q.Writes) :
    ((q.left.isWritable = false ∨ q.right.isWritable = false) ∧
      (q.answer host type).run = Reading.stuck (some .tooManyDigits)) ∨
    (∃ fault, q.Misreads host fault ∧ (q.answer host type).run = Reading.stuck fault.failure?) ∨
    ((q.left.isWritable = true ∧ q.right.isWritable = true) ∧ (∀ fault, ¬ q.Misreads host fault) ∧
      ∃ b, (q.answer host type).run = .ok (some b)) := by
  by_cases long : q.left.isWritable = false ∨ q.right.isWritable = false
  · exact .inl ⟨long, answer_of_long writes long⟩
  have written : q.left.isWritable = true ∧ q.right.isWritable = true := by simpa using long
  obtain ⟨whole, hwhole⟩ := q.left.exists_display.mpr written.1
  obtain ⟨p, hp⟩ := (Operand.value q.right).exists_display.mpr written.2
  replace hp : q.right.display = .ok p := hp
  refine .inr ?_
  by_cases hpattern : q.inquiry = .pattern
  · have hanswer : q.answer host type = q.left.matchesPattern host q.right := by
      rw [answer, hpattern]
    rw [hanswer, matchesPattern_of_texts writes.left hp hwhole]
    cases hread : Pattern.read host p with
    | ok node =>
      refine .inr ⟨written, ?_, _, rfl⟩
      rintro fault ⟨-, -, -, p', hp', hfault⟩
      rw [hp, Except.ok.injEq] at hp'
      rw [← hp', hread] at hfault
      cases hfault
    | error fault =>
      refine .inl ⟨fault, ⟨writes, hpattern, written.1, p, hp, hread⟩, ?_⟩
      cases fault <;> rfl
  · exact .inr ⟨written, fun fault h => hpattern h.pattern,
      answer_of_texts writes hp hwhole hpattern⟩

theorem Misreads.unique {fault fault' : Pattern.Fault} (h : q.Misreads host fault)
    (h' : q.Misreads host fault') : fault = fault' := by
  obtain ⟨p, hp, hread⟩ := h.fault
  obtain ⟨p', hp', hread'⟩ := h'.fault
  rw [hp, Except.ok.injEq] at hp'
  rw [← hp', hread, Except.error.injEq] at hread'
  exact hread'

theorem Misreads.not_long {fault : Pattern.Fault} (h : q.Misreads host fault) :
    ¬ (q.left.isWritable = false ∨ q.right.isWritable = false) := by
  obtain ⟨p, hp, -⟩ := h.fault
  have hright : q.right.isWritable = true := (Operand.value q.right).exists_display.mp ⟨p, hp⟩
  simp [h.subject, hright]

theorem answer_written_eq_stuck_iff (writes : q.Writes) (why : Option Failure) :
    (q.answer host type).run = Reading.stuck why ↔
      (q.left.isWritable = false ∨ q.right.isWritable = false) ∧ why = some .tooManyDigits ∨
        ∃ fault, q.Misreads host fault ∧ why = fault.failure? := by
  rcases answer_written_cases host type writes with
    ⟨long, hrun⟩ | ⟨fault, misreads, hrun⟩ | ⟨written, hreads, b, hrun⟩
  · rw [hrun, Reading.stuck_inj, and_iff_right long, or_iff_left, eq_comm]
    rintro ⟨fault, misreads, -⟩
    exact misreads.not_long long
  · have hone : (∃ fault', q.Misreads host fault' ∧ why = fault'.failure?) ↔
        why = fault.failure? := by
      constructor
      · rintro ⟨fault', misreads', hwhy⟩
        rw [hwhy, misreads'.unique misreads]
      · exact fun hwhy => ⟨fault, misreads, hwhy⟩
    rw [hrun, Reading.stuck_inj, hone, or_iff_right fun h => misreads.not_long h.1, eq_comm]
  · rw [hrun]
    apply iff_of_false (Reading.pure_run_ne_stuck b why)
    rintro (⟨long, -⟩ | ⟨fault, misreads, -⟩)
    · simp [written] at long
    · exact hreads fault misreads

theorem answer_written_eq_error_iff (writes : q.Writes) :
    (q.answer host type).run = .error f ↔ q.Strains host type f := by
  refine (answer_written_eq_stuck_iff writes (some f)).trans ?_
  constructor
  · rintro (⟨long, ⟨⟩⟩ | ⟨fault, misreads, hbroken⟩)
    · exact .written writes long
    · exact .pattern misreads hbroken.symm
  · intro h
    cases h with
    | left meets | right meets | number meets => exact (meets.not_writes writes).elim
    | instant free => exact (free.meets.not_writes writes).elim
    | text undated => exact (undated.meets.not_writes writes).elim
    | written _ long => exact .inl ⟨long, rfl⟩
    | pattern misreads broken => exact .inr ⟨_, misreads, broken.symm⟩

theorem answer_written_eq_none_iff (writes : q.Writes) :
    (q.answer host type).run = .ok none ↔ q.Unreadable host type := by
  refine (answer_written_eq_stuck_iff writes none).trans ?_
  constructor
  · rintro (⟨-, ⟨⟩⟩ | ⟨fault, misreads, hfaulty⟩)
    exact .pattern misreads hfaulty.symm
  · intro h
    cases h with
    | left meets | right meets => exact (meets.not_writes writes).elim
    | pattern misreads faulty => exact .inr ⟨_, misreads, faulty.symm⟩

/-! ### All of them -/

theorem answer_idle (hmeets : ¬ q.Meets) (hwrites : ¬ q.Writes) :
    ∃ b, (q.answer host type).run = .ok (some b) := by
  cases htyped : q.inquiry.isTyped with
  | true => exact answer_not_meets htyped hmeets
  | false => exact answer_not_writes htyped hwrites

theorem Strains.meets_or_writes (h : q.Strains host type f) : q.Meets ∨ q.Writes := by
  cases h with
  | left meets | right meets | number meets => exact .inl meets
  | instant free => exact .inl free.meets
  | text undated => exact .inl undated.meets
  | written writes => exact .inr writes
  | pattern misreads => exact .inr misreads.writes

theorem Unreadable.meets_or_writes (h : q.Unreadable host type) : q.Meets ∨ q.Writes := by
  cases h with
  | left meets | right meets => exact .inl meets
  | pattern misreads => exact .inr misreads.writes

theorem answer_run_eq_error_iff :
    (q.answer host type).run = .error f ↔ q.Strains host type f := by
  by_cases hmeets : q.Meets
  · by_cases htype : type = .auto
    · subst htype
      exact answer_open_eq_error_iff hmeets
    · exact answer_declared_eq_error_iff hmeets htype
  by_cases hwrites : q.Writes
  · exact answer_written_eq_error_iff hwrites
  obtain ⟨b, hb⟩ := answer_idle hmeets hwrites
  rw [hb]
  refine iff_of_false (by rintro ⟨⟩) fun h => ?_
  exact h.meets_or_writes.elim hmeets hwrites

theorem answer_run_eq_none_iff :
    (q.answer host type).run = .ok none ↔ q.Unreadable host type := by
  by_cases hmeets : q.Meets
  · by_cases htype : type = .auto
    · subst htype
      apply iff_of_false (answer_open_ne_none hmeets.typed)
      rintro (⟨_, declared, _⟩ | ⟨_, declared, _, _⟩ | ⟨misreads, -⟩)
      · exact declared rfl
      · exact declared rfl
      · exact hmeets.not_writes misreads.writes
    · rw [answer_declared hmeets htype]
      simp only [Reading.bind_run_eq_none_iff, Reading.pure_run, sides_run_eq_none_iff,
        Except.ok.injEq, reduceCtorEq, and_false, exists_false, or_false]
      constructor
      · rintro (nothing | ⟨named, nothing⟩)
        · exact .left hmeets htype nothing
        · exact .right hmeets htype named nothing
      · intro h
        cases h with
        | left _ _ nothing => exact .inl nothing
        | right _ _ named nothing => exact .inr ⟨named, nothing⟩
        | pattern misreads => exact (hmeets.not_writes misreads.writes).elim
  by_cases hwrites : q.Writes
  · exact answer_written_eq_none_iff hwrites
  obtain ⟨b, hb⟩ := answer_idle hmeets hwrites
  rw [hb]
  refine iff_of_false (by rintro ⟨⟩) fun h => ?_
  exact h.meets_or_writes.elim hmeets hwrites

end Question
end Formwork
