import Formwork.Action.Rendering
import Formwork.Proofs.Work
/-!
# Placeholders are filled once

A text in which braces open nothing but placeholders is read from front to back as the pieces it
was put together from. If it is a single placeholder, with at most blanks around it, what the path
names takes the place of the text. Otherwise each placeholder gives way to the text of what its path
names, and all else stays as it is. What is put in is not looked at again, even if it has
placeholders in it.
-/
namespace Formwork

/-! ## Placeholders as they are written -/

/-- A name that can stand in a reference or in a placeholder. -/
def IsPathText (name : String) : Prop :=
  name ≠ "" ∧ ∀ x ∈ name.toList, isPathChar x = true

instance (name : String) : Decidable (IsPathText name) :=
  have : Decidable (∀ x ∈ name.toList, isPathChar x = true) := List.decidableBAll _ _
  inferInstanceAs (Decidable (_ ∧ _))

theorem IsPathText.exists_cons {name : String} (h : IsPathText name) :
    ∃ x rest, name.toList = x :: rest ∧ isPathChar x = true := by
  cases hchars : name.toList with
  | nil => exact absurd (String.toList_eq_nil_iff.mp hchars) h.1
  | cons x rest => exact ⟨x, rest, rfl, h.2 x (by simp [hchars])⟩

/-- Characters that are all blanks. -/
def Text.AllBlank (cs : List Char) : Prop := ∀ x ∈ cs, Text.isBlank x = true

instance (cs : List Char) : Decidable (Text.AllBlank cs) := List.decidableBAll _ _

/-- A path in double braces, perhaps with blanks around it. -/
structure Placeholder where
  before : List Char := []
  path : String
  after : List Char := []
  before_blank : Text.AllBlank before := by decide
  isPathText : IsPathText path
  after_blank : Text.AllBlank after := by decide

namespace Placeholder

/-- What stands behind the path. -/
def closing (p : Placeholder) : List Char := p.after ++ ['\x7d', '\x7d']

def written (p : Placeholder) : List Char :=
  '\x7b' :: '\x7b' :: (p.before ++ (p.path.toList ++ p.closing))

end Placeholder

/-! ### Where a run of characters ends -/

theorem isBlank_of_isPathChar {x : Char} (h : isPathChar x = true) : Text.isBlank x = false := by
  simp only [isPathChar, Bool.or_eq_true, decide_eq_true_eq] at h
  rcases h with ((h | rfl) | rfl) | rfl
  · have hranges : x.isAlphanum = (decide ('A'.val ≤ x.val ∧ x.val ≤ 'Z'.val) ||
        decide ('a'.val ≤ x.val) && decide (x.val ≤ 'z'.val) ||
        decide ('0'.val ≤ x.val) && decide (x.val ≤ '9'.val)) := rfl
    simp only [hranges, Bool.or_eq_true, Bool.and_eq_true, decide_eq_true_eq,
      UInt32.le_iff_toNat_le, Char.reduceVal, UInt32.reduceToNat] at h
    have hcode : x.toNat = x.val.toNat := rfl
    simp only [Text.isBlank, hcode, Bool.or_eq_false_iff, Bool.and_eq_false_iff,
      decide_eq_false_iff_not]
    omega
  all_goals decide

section Runs

variable {test : Char → Bool} {run rest : List Char}

theorem takeWhile_run (h : ∀ x ∈ run, test x = true)
    (ends : ∀ x ∈ rest.head?, test x = false) : (run ++ rest).takeWhile test = run := by
  rw [List.takeWhile_append_of_pos h]
  cases rest with
  | nil => simp
  | cons x rest => simp [ends x rfl]

theorem dropWhile_run (h : ∀ x ∈ run, test x = true)
    (ends : ∀ x ∈ rest.head?, test x = false) : (run ++ rest).dropWhile test = rest := by
  rw [List.dropWhile_append_of_pos h]
  cases rest with
  | nil => rfl
  | cons x rest => simp [ends x rfl]

theorem exists_run (test : Char → Bool) (cs : List Char) : ∃ run rest, cs = run ++ rest ∧
    cs.takeWhile test = run ∧ ∀ x ∈ run, test x = true :=
  ⟨_, _, (List.takeWhile_append_dropWhile (p := test)).symm, rfl,
    List.all_eq_true.mp List.all_takeWhile⟩

end Runs

namespace Placeholder

theorem closing_ends (p : Placeholder) (rest : List Char) :
    ∀ x ∈ (p.closing ++ rest).head?, isPathChar x = false := by
  cases hafter : p.after with
  | nil =>
    have hclosing : isPathChar '\x7d' = false := by decide
    simpa [closing, hafter] using hclosing
  | cons x _ =>
    have hblank := p.after_blank x (by simp [hafter])
    have hpath : isPathChar x = false := Bool.eq_false_iff.mpr fun hpath => by
      rw [isBlank_of_isPathChar hpath] at hblank
      cases hblank
    simpa [closing, hafter] using hpath

theorem placeholder?_written (p : Placeholder) (rest : List Char) :
    placeholder? (p.written ++ rest) = some (p.path, p.written.length) := by
  obtain ⟨x, path, hpath, hx⟩ := p.isPathText.exists_cons
  have hbefore : (p.before ++ (p.path.toList ++ (p.closing ++ rest))).takeWhile Text.isBlank =
      p.before :=
    takeWhile_run p.before_blank (by simp [hpath, isBlank_of_isPathChar hx])
  have hname : (p.path.toList ++ (p.closing ++ rest)).takeWhile isPathChar = p.path.toList :=
    takeWhile_run p.isPathText.2 (p.closing_ends rest)
  have hafter : (p.after ++ ('\x7d' :: '\x7d' :: rest)).takeWhile Text.isBlank = p.after := by
    have hclosing : Text.isBlank '\x7d' = false := by decide
    exact takeWhile_run p.after_blank (by simpa using hclosing)
  have htext : String.ofList (x :: path) = p.path := by rw [← hpath, String.ofList_toList]
  simp only [written, List.cons_append, List.append_assoc, placeholder?, hbefore, List.drop_left,
    hname]
  simp only [closing, List.append_assoc, List.cons_append, List.nil_append, hafter, List.drop_left,
    hpath, htext, Option.some.injEq, Prod.mk.injEq, true_and, List.length_cons, List.length_append,
    List.length_nil]
  omega

theorem exists_written {cs : List Char} {path : String} {taken : Nat}
    (h : placeholder? cs = some (path, taken)) :
    ∃ (p : Placeholder) (rest : List Char),
      cs = p.written ++ rest ∧ p.path = path ∧ p.written.length = taken := by
  unfold placeholder? at h
  split at h
  · rename_i inside
    obtain ⟨before, inner, rfl, hbefore, before_blank⟩ := exists_run Text.isBlank inside
    simp only [hbefore, List.drop_left] at h
    obtain ⟨name, outer, rfl, hname, chars⟩ := exists_run isPathChar inner
    simp only [hname, List.drop_left] at h
    obtain ⟨after, close, rfl, hafter, after_blank⟩ := exists_run Text.isBlank outer
    simp only [hafter, List.drop_left] at h
    split at h
    · rename_i x name rest
      simp only [Option.some.injEq, Prod.mk.injEq] at h
      obtain ⟨rfl, rfl⟩ := h
      have named : IsPathText (String.ofList (x :: name)) := ⟨by simp, by simpa using chars⟩
      refine ⟨⟨before, _, after, before_blank, named, after_blank⟩, rest,
        by simp [written, closing], rfl, ?_⟩
      simp [written, closing]
      omega
    · cases h
  · cases h

end Placeholder

/-! ## A placeholder alone -/

namespace Text

theorem trimBy_run {left middle right : List Char} (hleft : AllBlank left) (hright : AllBlank right)
    (first : ∀ x ∈ (middle ++ right).head?, isBlank x = false)
    (last : ∀ x ∈ middle.reverse.head?, isBlank x = false) :
    trimBy isBlank (left ++ (middle ++ right)) = middle := by
  have hreverse : ∀ x ∈ right.reverse, isBlank x = true :=
    fun x hx => hright x (List.mem_reverse.mp hx)
  rw [trimBy, dropWhile_run hleft first, List.reverse_append, dropWhile_run hreverse last,
    List.reverse_reverse]

theorem exists_trimBy (cs : List Char) : ∃ left right, AllBlank left ∧ AllBlank right ∧
    cs = left ++ (trimBy isBlank cs ++ right) := by
  refine ⟨cs.takeWhile isBlank, ((cs.dropWhile isBlank).reverse.takeWhile isBlank).reverse,
    List.all_eq_true.mp List.all_takeWhile,
    fun x hx => List.all_eq_true.mp List.all_takeWhile x (List.mem_reverse.mp hx), ?_⟩
  rw [trimBy, ← List.reverse_append, List.takeWhile_append_dropWhile, List.reverse_reverse,
    List.takeWhile_append_dropWhile]

end Text

namespace Placeholder

/-- Nothing but blanks stands around a placeholder in a text. -/
def AloneIn (p : Placeholder) (s : String) : Prop :=
  ∃ left right, Text.AllBlank left ∧ Text.AllBlank right ∧
    s.toList = left ++ (p.written ++ right)

theorem trimBy_written (p : Placeholder) {left right : List Char} (hleft : Text.AllBlank left)
    (hright : Text.AllBlank right) :
    Text.trimBy Text.isBlank (left ++ (p.written ++ right)) = p.written := by
  have hopening : Text.isBlank '\x7b' = false := by decide
  have hclosing : Text.isBlank '\x7d' = false := by decide
  exact Text.trimBy_run hleft hright (by simpa [written] using hopening)
    (by simpa [written, closing] using hclosing)

theorem wholePlaceholder?_eq_some_iff {s path : String} :
    wholePlaceholder? s = some path ↔ ∃ p : Placeholder, p.AloneIn s ∧ p.path = path := by
  constructor
  · intro h
    obtain ⟨left, right, hleft, hright, hs⟩ := Text.exists_trimBy s.toList
    unfold wholePlaceholder? at h
    dsimp only at h
    split at h
    · rename_i found taken hfound
      obtain ⟨p, rest, hcs, rfl, rfl⟩ := exists_written hfound
      split at h
      · rename_i hlength
        have hrest : rest = [] := by
          rw [hcs, List.length_append] at hlength
          exact List.eq_nil_of_length_eq_zero (by omega)
        rw [hcs, hrest, List.append_nil] at hs
        exact ⟨p, ⟨left, right, hleft, hright, hs⟩, Option.some.inj h⟩
      · cases h
    · cases h
  · rintro ⟨p, ⟨left, right, hleft, hright, hs⟩, rfl⟩
    have hfound := p.placeholder?_written []
    rw [List.append_nil] at hfound
    simp only [wholePlaceholder?, hs, p.trimBy_written hleft hright, hfound, ↓reduceIte]

end Placeholder

/-! ## Pieces -/

/-- A piece of a text: characters without an opening brace, or a placeholder. -/
inductive TextPiece where
  | literal (cs : List Char) (plain : '\x7b' ∉ cs)
  | placeholder (p : Placeholder)

namespace TextPiece

def written : TextPiece → List Char
  | literal cs _ => cs
  | placeholder p => p.written

/-- Whether the piece can be filled: what its path names has a text. -/
def isWritable (c : Context) : TextPiece → Bool
  | literal _ _ => true
  | placeholder p => (c.lookUp p.path).isWritable

/-- The piece with the text of what its path names, if it names anything. -/
def filled (c : Context) : TextPiece → List Char
  | literal cs _ => cs
  | placeholder p =>
    match c.lookUp p.path with
    | .null => []
    | v => (v.display?.getD "").toList

/-- The text that pieces make, one behind the other. -/
def text (pieces : List TextPiece) : String := String.ofList (pieces.flatMap written)

end TextPiece

namespace Context

variable {c : Context}

theorem fillFrom_skip (taken rest : List Char) :
    c.fillFrom taken.length (taken ++ rest) = c.fillFrom 0 rest := by
  induction taken with
  | nil => rfl
  | cons x taken ih => exact ih

theorem fillFrom_literal {cs : List Char} (plain : '\x7b' ∉ cs) (rest : List Char) :
    c.fillFrom 0 (cs ++ rest) = (do pure (cs ++ (← c.fillFrom 0 rest))) := by
  induction cs with
  | nil => cases h : c.fillFrom 0 rest <;> simp [h]
  | cons x cs ih =>
    rw [List.mem_cons, not_or] at plain
    have hnone : placeholder? (x :: (cs ++ rest)) = none := by
      unfold placeholder?
      split
      · rename_i heq
        exact absurd (List.cons.inj heq).1.symm plain.1
      · rfl
    rw [List.cons_append, fillFrom, hnone, ih plain.2]
    simp

theorem insertion_of_writable {p : Placeholder} (h : (c.lookUp p.path).isWritable = true) :
    c.insertion p.path = .ok (String.ofList ((TextPiece.placeholder p).filled c)) := by
  unfold insertion TextPiece.filled
  rw [← Value.display?_isSome] at h
  split
  · simp_all
  · obtain ⟨text, htext⟩ := Option.isSome_iff_exists.mp h
    simp_all [Value.display, Value.written]

theorem insertion_of_long {p : Placeholder} (h : (c.lookUp p.path).isWritable = false) :
    c.insertion p.path = .error .tooManyDigits := by
  unfold insertion
  split
  · rename_i hnull
    rw [hnull] at h
    cases h
  · exact Value.display_eq_error.mpr ⟨h, rfl⟩

theorem fillFrom_placeholder (p : Placeholder) (rest : List Char) :
    c.fillFrom 0 (p.written ++ rest) = (do
      let inserted ← c.insertion p.path
      pure (inserted.toList ++ (← c.fillFrom 0 rest))) := by
  have hfound := p.placeholder?_written rest
  have hskip := fillFrom_skip (c := c) p.written.tail rest
  obtain ⟨x, tail, hwritten⟩ : ∃ x tail, p.written = x :: tail := ⟨_, _, rfl⟩
  rw [hwritten, List.cons_append] at hfound ⊢
  rw [hwritten] at hskip
  rw [fillFrom, hfound]
  simp only [List.length_cons, Nat.add_sub_cancel, List.tail_cons] at hskip ⊢
  rw [hskip]

theorem fillFrom_pieces (pieces : List TextPiece) :
    c.fillFrom 0 (pieces.flatMap TextPiece.written) =
      if pieces.all (TextPiece.isWritable c) then .ok (pieces.flatMap (TextPiece.filled c))
      else .error .tooManyDigits := by
  induction pieces with
  | nil => rfl
  | cons piece pieces ih =>
    rw [List.flatMap_cons, List.flatMap_cons, List.all_cons]
    cases piece with
    | literal cs plain =>
      rw [TextPiece.written, fillFrom_literal plain, ih, TextPiece.isWritable, Bool.true_and]
      split <;> rfl
    | placeholder p =>
      rw [TextPiece.written, fillFrom_placeholder, ih, TextPiece.isWritable]
      cases hwritable : (c.lookUp p.path).isWritable with
      | true =>
        rw [insertion_of_writable hwritable, Work.except_ok_bind, Bool.true_and,
          String.toList_ofList]
        split <;> rfl
      | false => rw [insertion_of_long hwritable, Work.except_error_bind, Bool.false_and]; rfl

theorem render_alone {p : Placeholder} {s : String} (h : p.AloneIn s) :
    c.render (.text s) = .ok (c.lookUp p.path) := by
  have hwhole := Placeholder.wholePlaceholder?_eq_some_iff.mpr ⟨p, h, rfl⟩
  simp only [render, renderText, hwhole]

theorem render_pieces {pieces : List TextPiece}
    (h : ¬ ∃ p : Placeholder, p.AloneIn (TextPiece.text pieces)) :
    c.render (.text (TextPiece.text pieces)) =
      if pieces.all (TextPiece.isWritable c) then
        .ok (.text (String.ofList (pieces.flatMap (TextPiece.filled c))))
      else .error .tooManyDigits := by
  have hwhole : wholePlaceholder? (TextPiece.text pieces) = none := by
    refine Option.eq_none_iff_forall_ne_some.mpr fun path hpath => h ?_
    obtain ⟨p, halone, -⟩ := Placeholder.wholePlaceholder?_eq_some_iff.mp hpath
    exact ⟨p, halone⟩
  have hfilled := fillFrom_pieces (c := c) pieces
  rw [← String.toList_ofList (l := pieces.flatMap TextPiece.written)] at hfilled
  simp only [render, renderText, hwhole]
  rw [TextPiece.text, hfilled]
  split <;> rfl

end Context
end Formwork
