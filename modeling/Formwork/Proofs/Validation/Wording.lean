import Mathlib.Tactic.Common
import Formwork.Proofs.Work
import Formwork.Validation.Message
/-!
# Complaints find their words

A message has places for a limit and for the name of another field, and a place that nothing takes
is a failure. A complaint has such places only where it is about a limit or about another field, in
either language, so it finds its words as soon as those are given and the limit has a text.
-/
namespace Formwork

/-! ## What fails exactly when -/

section FailsBy

variable {α β : Type}

/-- There is no result exactly if there is a reason for a failure, and the failure is for one of the
reasons. -/
structure FailsBy (x : Except Failure α) (reason : Failure → Prop) : Prop where
  sound : ∀ f, x = .error f → reason f
  complete : (∃ f, reason f) → ∃ f, x = .error f

namespace FailsBy

variable {x : Except Failure α} {next : α → Except Failure β} {reason reason' : Failure → Prop}

theorem of_iff (h : ∀ f, x = .error f ↔ reason f) : FailsBy x reason where
  sound f := (h f).mp
  complete := by
    rintro ⟨f, hf⟩
    exact ⟨f, (h f).mpr hf⟩

theorem congr (h : FailsBy x reason) (hiff : ∀ f, reason f ↔ reason' f) : FailsBy x reason' := by
  have hreason : reason = reason' := funext fun f => propext (hiff f)
  rwa [← hreason]

theorem of_ok (h : ∃ a, x = .ok a) : FailsBy x fun _ => False where
  sound f hf := by
    obtain ⟨a, ha⟩ := h
    rw [ha] at hf
    cases hf
  complete := by
    rintro ⟨_, ⟨⟩⟩

theorem ok (a : α) : FailsBy (.ok a) fun _ => False := of_ok ⟨a, rfl⟩

theorem never (a : α) (h : ∀ f, ¬ reason f) : FailsBy (.ok a) reason :=
  (ok a).congr fun f => iff_of_false id (h f)

theorem bind (h : FailsBy x reason) (hnext : ∀ a, x = .ok a → FailsBy (next a) reason') :
    FailsBy (x >>= next) fun f => reason f ∨ reason' f := by
  cases x with
  | error g =>
    have hg : reason g := h.sound g rfl
    refine ⟨?_, fun _ => ⟨g, rfl⟩⟩
    intro f hf
    cases hf
    exact .inl hg
  | ok a =>
    have hnever (f : Failure) : ¬ reason f := by
      intro hf
      obtain ⟨g, hg⟩ := h.complete ⟨f, hf⟩
      cases hg
    have ha := hnext a rfl
    constructor
    · intro f hf
      exact .inr (ha.sound f hf)
    · rintro ⟨f, hf | hf⟩
      · exact absurd hf (hnever f)
      · exact ha.complete ⟨f, hf⟩

theorem bind_ok (h : FailsBy x reason) (hnext : ∀ a, x = .ok a → ∃ b, next a = .ok b) :
    FailsBy (x >>= next) reason :=
  (h.bind fun a ha => of_ok (hnext a ha)).congr fun _ => by simp

theorem ok_bind (h : ∃ a, x = .ok a) (hnext : ∀ a, FailsBy (next a) reason) :
    FailsBy (x >>= next) reason := by
  obtain ⟨a, rfl⟩ := h
  exact hnext a

theorem ite {p : Prop} [Decidable p] {x y : Except Failure α} (hx : p → FailsBy x reason)
    (hy : ¬ p → FailsBy y reason') :
    FailsBy (if p then x else y) fun f => p ∧ reason f ∨ ¬ p ∧ reason' f := by
  split
  · rename_i h
    exact (hx h).congr fun _ => by simp [h]
  · rename_i h
    exact (hy h).congr fun _ => by simp [h]

theorem mapM {act : α → Except Failure β} {reason : α → Failure → Prop} {l : List α}
    (h : ∀ a ∈ l, FailsBy (act a) (reason a)) :
    FailsBy (l.mapM act) fun f => ∃ a ∈ l, reason a f := by
  induction l with
  | nil => exact .never [] fun f => by simp
  | cons a rest ih =>
    have hrest := ih fun b hb => h b (List.mem_cons_of_mem _ hb)
    rw [List.mapM_cons]
    refine ((h a List.mem_cons_self).bind fun first _ =>
      hrest.bind_ok fun later _ => ⟨first :: later, rfl⟩).congr fun f => by simp

theorem exists_ok_iff (h : FailsBy x reason) : (∃ a, x = .ok a) ↔ ∀ f, ¬ reason f := by
  constructor
  · rintro ⟨a, ha⟩ f hf
    obtain ⟨g, hg⟩ := h.complete ⟨f, hf⟩
    rw [ha] at hg
    cases hg
  · intro hno
    cases hx : x with
    | ok a => exact ⟨a, rfl⟩
    | error f => exact absurd (h.sound f hx) (hno f)

end FailsBy

end FailsBy

/-! ## Words -/

theorem Value.display_failsBy (v : Value) :
    FailsBy v.display fun e => v.isWritable = false ∧ e = .tooManyDigits :=
  .of_iff fun _ => display_eq_error

namespace Complaint

/-- Complaints about a limit. -/
def limited : List Complaint := [min, max, minLength, maxLength, fileType, fileSize]

theorem limit_mem_pieces_iff (c : Complaint) (language : Language) :
    Piece.limit ∈ c.pieces language ↔ c ∈ limited := by
  cases language <;> cases c <;> decide

theorem other_mem_pieces_iff (c : Complaint) (language : Language) :
    Piece.other ∈ c.pieces language ↔ c = crossField := by
  cases language <;> cases c <;> decide

end Complaint

/-- All that a complaint has a place for is given. -/
structure Ground.Fills (ground : Ground) (c : Complaint) : Prop where
  limit : c ∈ Complaint.limited → ∃ v, ground.limit = some v
  other : c = .crossField → ∃ s, ground.other = some s

/-- A complaint is put into words, and has to write a limit that has no text. -/
structure Ground.Unwritten (ground : Ground) (c : Complaint) : Prop where
  unworded : ground.message.filter (!·.isEmpty) = none
  limited : c ∈ Complaint.limited
  long : ∃ v, ground.limit = some v ∧ v.isWritable = false

section Words

variable {c : Complaint} {ground : Ground}

theorem Piece.fill_failsBy (hfills : ground.Fills c) (label : String) {language : Language}
    {p : Piece} (hp : p ∈ c.pieces language) :
    FailsBy (p.fill ⟨label, ground.limit, ground.other⟩) fun e => p = .limit ∧
      (∃ v, ground.limit = some v ∧ v.isWritable = false) ∧ e = .tooManyDigits := by
  cases p with
  | words s => exact .never s fun e => by simp
  | label => exact .never label fun e => by simp
  | limit =>
    obtain ⟨v, hv⟩ := hfills.limit ((c.limit_mem_pieces_iff language).mp hp)
    simp only [fill, hv]
    exact v.display_failsBy.congr fun e => by simp
  | other =>
    obtain ⟨s, hs⟩ := hfills.other ((c.other_mem_pieces_iff language).mp hp)
    simp only [fill, hs]
    exact .never s fun e => by simp

theorem Complaint.message_failsBy (hfills : ground.Fills c) (label : String)
    (language : Language) :
    FailsBy (c.message language ⟨label, ground.limit, ground.other⟩) fun e =>
      c ∈ limited ∧ (∃ v, ground.limit = some v ∧ v.isWritable = false) ∧
        e = .tooManyDigits := by
  refine ((FailsBy.mapM fun p hp => Piece.fill_failsBy hfills label hp).bind_ok
    fun words _ => ⟨String.join words, rfl⟩).congr fun e => ?_
  rw [← c.limit_mem_pieces_iff language]
  constructor
  · rintro ⟨_, hp, rfl, hlong, he⟩
    exact ⟨hp, hlong, he⟩
  · rintro ⟨hp, hlong, he⟩
    exact ⟨.limit, hp, rfl, hlong, he⟩

theorem Field.complain_failsBy (f : Field) (context : Context) (settings : Settings)
    (hfills : ground.Fills c) : FailsBy (f.complain c context settings ground) fun e =>
      ground.Unwritten c ∧ e = .tooManyDigits := by
  unfold complain
  cases hown : ground.message.filter (!·.isEmpty) with
  | some message =>
    refine .never _ fun e h => ?_
    have hunworded := h.1.unworded
    rw [hown] at hunworded
    cases hunworded
  | none =>
    refine ((Complaint.message_failsBy hfills f.shownName _).bind_ok
      fun message _ => ⟨_, rfl⟩).congr fun e => ?_
    constructor
    · rintro ⟨hlimited, hlong, he⟩
      exact ⟨⟨hown, hlimited, hlong⟩, he⟩
    · rintro ⟨hunwritten, he⟩
      exact ⟨hunwritten.limited, hunwritten.long, he⟩

end Words

end Formwork
