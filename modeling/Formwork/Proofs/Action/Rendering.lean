import Formwork.Proofs.Action.Placeholders
/-!
# Values with placeholders

In a value all texts are filled, at whatever depth they stand, and nothing else is touched: lists
keep their items in their order, maps their names, and what is neither a text nor a collection stays
as it is.
-/
namespace Formwork

open Document

namespace Value

/-- What stands in a value at a place. -/
def at? : List Key → Value → Option Value
  | [], v => some v
  | .name name :: place, v => (v.get? name).bind (at? place)
  | .index i :: place, .list items => items[i]?.bind (at? place)
  | .index _ :: _, _ => none

/-- Two values that are the same except for texts and for what stands inside of collections. -/
inductive Outlines : Value → Value → Prop
  | text (s : String) (v : Value) : Outlines (.text s) v
  | list {items items' : List Value} (length : items'.length = items.length) :
      Outlines (.list items) (.list items')
  | map {es es' : Entries Value} (names : es'.names = es.names) : Outlines (.map es) (.map es')
  | null : Outlines .null .null
  | bool (b : Bool) : Outlines (.bool b) (.bool b)
  | int (n : Int) : Outlines (.int n) (.int n)
  | float (x : Float) : Outlines (.float x) (.float x)

end Value

namespace Value

/-- A text that stands in a value, at whatever depth. -/
inductive HasText : Value → String → Prop
  | text (s : String) : HasText (.text s) s
  | item {items : List Value} {v : Value} {s : String} (mem : v ∈ items) (inner : v.HasText s) :
    HasText (.list items) s
  | entry {es : Entries Value} {name : String} {v : Value} {s : String} (mem : (name, v) ∈ es)
    (inner : v.HasText s) : HasText (.map es) s

end Value

namespace Context

variable {c : Context} {v filled : Value} {items items' : List Value} {es es' : Entries Value}

/-! ## Member by member -/

theorem render_list_eq_ok_iff :
    c.render (.list items) = .ok filled ↔ ∃ items', c.renderItems items = .ok items' ∧
      .list items' = filled := by
  simp only [render, Work.except_bind_eq_ok_iff, pure, Except.pure, Except.ok.injEq]

theorem render_map_eq_ok_iff :
    c.render (.map es) = .ok filled ↔ ∃ es', c.renderEntries es = .ok es' ∧
      .map es' = filled := by
  simp only [render, Work.except_bind_eq_ok_iff, pure, Except.pure, Except.ok.injEq]

theorem renderItems_cons_eq_ok_iff :
    c.renderItems (v :: items) = .ok items' ↔ ∃ w rest, c.render v = .ok w ∧
      c.renderItems items = .ok rest ∧ w :: rest = items' := by
  simp only [renderItems, Work.except_bind_eq_ok_iff, pure, Except.pure, Except.ok.injEq,
    exists_and_left]

theorem renderEntries_cons_eq_ok_iff {name : String} :
    c.renderEntries ((name, v) :: es) = .ok es' ↔ ∃ w rest, c.render v = .ok w ∧
      c.renderEntries es = .ok rest ∧ (name, w) :: rest = es' := by
  simp only [renderEntries, Work.except_bind_eq_ok_iff, pure, Except.pure, Except.ok.injEq,
    exists_and_left]

theorem length_of_renderItems (h : c.renderItems items = .ok items') :
    items'.length = items.length := by
  induction items generalizing items' with
  | nil => cases h; rfl
  | cons v rest ih =>
    obtain ⟨w, rest', -, hrest, rfl⟩ := renderItems_cons_eq_ok_iff.mp h
    rw [List.length_cons, List.length_cons, ih hrest]

theorem getElem?_of_renderItems (h : c.renderItems items = .ok items') {i : Nat}
    (hv : items[i]? = some v) : ∃ w, c.render v = .ok w ∧ items'[i]? = some w := by
  induction items generalizing items' i with
  | nil => cases hv
  | cons first rest ih =>
    obtain ⟨w, rest', hfirst, hrest, rfl⟩ := renderItems_cons_eq_ok_iff.mp h
    cases i with
    | zero =>
      obtain rfl := Option.some.inj hv
      exact ⟨w, hfirst, rfl⟩
    | succ i => exact ih hrest hv

theorem names_of_renderEntries (h : c.renderEntries es = .ok es') : es'.names = es.names := by
  induction es generalizing es' with
  | nil => cases h; rfl
  | cons e rest ih =>
    obtain ⟨w, rest', -, hrest, rfl⟩ := renderEntries_cons_eq_ok_iff.mp h
    exact congrArg (e.1 :: ·) (ih hrest)

theorem get?_of_renderEntries (h : c.renderEntries es = .ok es') {name : String}
    (hv : es.get? name = some v) : ∃ w, c.render v = .ok w ∧ es'.get? name = some w := by
  induction es generalizing es' with
  | nil => cases hv
  | cons e rest ih =>
    obtain ⟨w, rest', hfirst, hrest, rfl⟩ := renderEntries_cons_eq_ok_iff.mp h
    by_cases hname : e.1 = name
    · obtain rfl : e.2 = v := by simpa [Entries.get?, hname] using hv
      exact ⟨w, hfirst, by simp [Entries.get?, hname]⟩
    · obtain ⟨w', hw', hget⟩ := ih hrest (by simpa [Entries.get?, hname] using hv)
      exact ⟨w', hw', by simpa [Entries.get?, hname] using hget⟩

theorem outlines_of_render (h : c.render v = .ok filled) : v.Outlines filled := by
  cases v with
  | text s => exact .text s _
  | list items =>
    obtain ⟨items', hitems, rfl⟩ := render_list_eq_ok_iff.mp h
    exact .list (length_of_renderItems hitems)
  | map es =>
    obtain ⟨es', hes, rfl⟩ := render_map_eq_ok_iff.mp h
    exact .map (names_of_renderEntries hes)
  | null => cases h; exact .null
  | bool b => cases h; exact .bool b
  | int n => cases h; exact .int n
  | float x => cases h; exact .float x

theorem at?_of_render {place : List Key} {w : Value} (h : c.render v = .ok filled)
    (hplace : v.at? place = some w) : ∃ w', c.render w = .ok w' ∧ filled.at? place = some w' := by
  induction place generalizing v filled with
  | nil =>
    obtain rfl := Option.some.inj hplace
    exact ⟨filled, h, rfl⟩
  | cons key place ih =>
    cases key with
    | name name =>
      obtain ⟨inner, hinner, hwithin⟩ := Option.bind_eq_some_iff.mp hplace
      cases v with
      | map es =>
        obtain ⟨es', hes, rfl⟩ := render_map_eq_ok_iff.mp h
        obtain ⟨inner', hinner', hget⟩ := get?_of_renderEntries hes hinner
        obtain ⟨w', hw', hfound⟩ := ih hinner' hwithin
        refine ⟨w', hw', ?_⟩
        rw [Value.at?, show (Value.map es').get? name = some inner' from hget]
        exact hfound
      | null | bool _ | int _ | float _ | text _ | list _ => cases hinner
    | index i =>
      cases v with
      | list items =>
        obtain ⟨inner, hinner, hwithin⟩ := Option.bind_eq_some_iff.mp hplace
        obtain ⟨items', hitems, rfl⟩ := render_list_eq_ok_iff.mp h
        obtain ⟨inner', hinner', hget⟩ := getElem?_of_renderItems hitems hinner
        obtain ⟨w', hw', hfound⟩ := ih hinner' hwithin
        refine ⟨w', hw', ?_⟩
        rw [Value.at?, hget]
        exact hfound
      | null | bool _ | int _ | float _ | text _ | map _ => cases hplace

/-! ## What can be filled -/

mutual

theorem render_returns_iff (v : Value) : (∃ filled, c.render v = .ok filled) ↔
    ∀ s, v.HasText s → ∃ w, c.render (.text s) = .ok w := by
  cases v with
  | text s =>
    constructor
    · rintro h _ ⟨⟩
      exact h
    · exact fun h => h s (.text s)
  | list items =>
    have hitems := renderItems_returns_iff items
    constructor
    · rintro ⟨filled, h⟩ s hs
      obtain ⟨items', h', -⟩ := render_list_eq_ok_iff.mp h
      cases hs with
      | item mem inner => exact hitems.mp ⟨items', h'⟩ _ mem s inner
    · intro h
      obtain ⟨items', h'⟩ := hitems.mpr fun v hv s hs => h s (.item hv hs)
      exact ⟨_, render_list_eq_ok_iff.mpr ⟨items', h', rfl⟩⟩
  | map es =>
    have hes := renderEntries_returns_iff es
    constructor
    · rintro ⟨filled, h⟩ s hs
      obtain ⟨es', h', -⟩ := render_map_eq_ok_iff.mp h
      cases hs with
      | entry mem inner => exact hes.mp ⟨es', h'⟩ _ _ mem s inner
    · intro h
      obtain ⟨es', h'⟩ := hes.mpr fun name v hv s hs => h s (.entry hv hs)
      exact ⟨_, render_map_eq_ok_iff.mpr ⟨es', h', rfl⟩⟩
  | null | bool _ | int _ | float _ =>
    apply iff_of_true ⟨_, rfl⟩
    rintro s ⟨⟩
termination_by structural v

theorem renderItems_returns_iff (items : List Value) : (∃ items', c.renderItems items = .ok items') ↔
    ∀ v ∈ items, ∀ s, v.HasText s → ∃ w, c.render (.text s) = .ok w := by
  cases items with
  | nil => exact iff_of_true ⟨[], rfl⟩ fun v hv => by cases hv
  | cons v rest =>
    rw [List.forall_mem_cons, ← render_returns_iff v, ← renderItems_returns_iff rest]
    simp only [renderItems_cons_eq_ok_iff]
    constructor
    · rintro ⟨_, w, rest', hw, hrest, rfl⟩
      exact ⟨⟨w, hw⟩, rest', hrest⟩
    · rintro ⟨⟨w, hw⟩, rest', hrest⟩
      exact ⟨_, w, rest', hw, hrest, rfl⟩
termination_by structural items

theorem renderEntries_returns_iff (es : List (String × Value)) :
    (∃ es', c.renderEntries es = .ok es') ↔
      ∀ name v, (name, v) ∈ es → ∀ s, v.HasText s → ∃ w, c.render (.text s) = .ok w := by
  cases es with
  | nil => exact iff_of_true ⟨[], rfl⟩ fun name v hv => by cases hv
  | cons e rest =>
    obtain ⟨name, v⟩ := e
    have hrest := renderEntries_returns_iff rest
    have hfirst := render_returns_iff v
    simp only [renderEntries_cons_eq_ok_iff]
    constructor
    · rintro ⟨_, w, rest', hw, hrest', rfl⟩ name' v' hmem
      rcases List.mem_cons.mp hmem with heq | hmem
      · obtain ⟨-, rfl⟩ := Prod.mk.inj heq
        exact hfirst.mp ⟨w, hw⟩
      · exact hrest.mp ⟨rest', hrest'⟩ name' v' hmem
    · intro h
      obtain ⟨w, hw⟩ := hfirst.mpr (h name v List.mem_cons_self)
      obtain ⟨rest', hrest'⟩ := hrest.mpr fun n u hmem => h n u (List.mem_cons_of_mem _ hmem)
      exact ⟨_, w, rest', hw, hrest', rfl⟩
termination_by structural es

end

variable (c)

/-- A text is filled once, and values are filled text by text. A placeholder with at most blanks
around it becomes what its path names. In any other text of pieces each placeholder gives way to the
text of what its path names, or to nothing where it names nothing, and the pieces in between stay as
they are; without such a text nothing is filled. A value is filled exactly if each of its texts is.
What stands at a place of it, at whatever depth, is filled by itself then, and all but the texts
keeps its outline. -/
theorem render_fills_once :
    (∀ pieces : List TextPiece,
      (∀ p : Placeholder, p.AloneIn (TextPiece.text pieces) →
        c.render (.text (TextPiece.text pieces)) = .ok (c.lookUp p.path)) ∧
      ((¬ ∃ p : Placeholder, p.AloneIn (TextPiece.text pieces)) →
        c.render (.text (TextPiece.text pieces)) =
          if pieces.all (TextPiece.isWritable c) then
            .ok (.text (String.ofList (pieces.flatMap (TextPiece.filled c))))
          else .error .tooManyDigits)) ∧
    ∀ v : Value,
      ((∃ filled, c.render v = .ok filled) ↔
        ∀ s, v.HasText s → ∃ w, c.render (.text s) = .ok w) ∧
      ∀ filled, c.render v = .ok filled →
        ∀ (place : List Key) (w : Value), v.at? place = some w →
          ∃ w', c.render w = .ok w' ∧ filled.at? place = some w' ∧ w.Outlines w' := by
  constructor
  case left =>
    intro pieces
    exact ⟨fun p alone => render_alone alone, fun others => render_pieces others⟩
  case right =>
    intro v
    refine ⟨render_returns_iff v, fun filled h place w found => ?_⟩
    obtain ⟨w', hw', hfound⟩ := at?_of_render h found
    exact ⟨w', hw', hfound, outlines_of_render hw'⟩

end Context

/-! Somebody has given a placeholder as a name. -/
namespace Greeting

def context : Context :=
  { Context.ofNow ⟨0, Calendar.zero_lt_microCount⟩ with
    data := [("name", .text "\x7b\x7buser.id\x7d\x7d"), ("age", .int 7)] }

def name : Placeholder := { path := "data.name", isPathText := by decide }

def age : Placeholder := { before := [' '], path := "data.age", isPathText := by decide }

def hello : List TextPiece :=
  [.literal "Hello ".toList (by decide), .placeholder name, .literal ", ".toList (by decide),
    .placeholder age]

def aged : List TextPiece := [.placeholder age, .literal [' '] (by decide)]

def form : Value :=
  .list [.map [("text", .text (TextPiece.text hello))], .text (TextPiece.text aged)]

theorem age_aloneIn : age.AloneIn (TextPiece.text aged) :=
  ⟨[], [' '], by decide, by decide, by decide⟩

theorem none_aloneIn : ¬ ∃ p : Placeholder, p.AloneIn (TextPiece.text hello) := by
  rintro ⟨p, alone⟩
  have hwhole := Placeholder.wholePlaceholder?_eq_some_iff.mpr ⟨p, alone, rfl⟩
  have hnone : wholePlaceholder? (TextPiece.text hello) = none := by decide
  rw [hnone] at hwhole
  cases hwhole

end Greeting

namespace Context

open Greeting in
/-- The name is put in as it is, and the age alone stays a number. -/
theorem render_fills_once_greeting :
    context.render (.text (TextPiece.text hello)) =
      .ok (.text "Hello \x7b\x7buser.id\x7d\x7d, 7") ∧
    context.render (.text (TextPiece.text aged)) = .ok (.int 7) ∧
    ∃ filled, context.render form = .ok filled ∧ filled.at? [.index 0, .name "text"] =
      some (.text "Hello \x7b\x7buser.id\x7d\x7d, 7") := by
  obtain ⟨htexts, hvalues⟩ := context.render_fills_once
  have hhello := (htexts hello).2 none_aloneIn
  have hage : context.lookUp age.path = .int 7 := rfl
  have hwritten : (Value.int 7).isWritable = true :=
    Value.isWritable_int_of_lt (show Int.natAbs 7 < 10 ^ 1 by decide) (by decide)
  have hshown : (Value.int 7).display? = some "7" :=
    Value.display?_int_of_lt (show Int.natAbs 7 < 10 ^ 1 by decide) (by decide)
  have hwritable : hello.all (TextPiece.isWritable context) = true := by
    simp only [hello, List.all_cons, List.all_nil, TextPiece.isWritable, hage, hwritten]
    rfl
  have hfilled : String.ofList (hello.flatMap (TextPiece.filled context)) =
      "Hello \x7b\x7buser.id\x7d\x7d, 7" := by
    simp only [hello, List.flatMap_cons, List.flatMap_nil, TextPiece.filled, hage, hshown]
    rfl
  rw [hwritable, if_pos rfl, hfilled] at hhello
  have haged := (htexts aged).1 age age_aloneIn
  have htext (s : String) (hs : form.HasText s) : s = TextPiece.text hello ∨
      s = TextPiece.text aged := by
    obtain _ | ⟨mem, inner⟩ := hs
    rcases List.mem_cons.mp mem with rfl | mem
    · obtain _ | _ | ⟨entry, inner⟩ := inner
      cases List.mem_singleton.mp entry
      cases inner
      exact .inl rfl
    · rw [List.mem_singleton.mp mem] at inner
      cases inner
      exact .inr rfl
  obtain ⟨filled, hform⟩ := (hvalues form).1.mpr fun s hs => by
    rcases htext s hs with rfl | rfl
    · exact ⟨_, hhello⟩
    · exact ⟨_, haged⟩
  obtain ⟨w, hw, hplace, -⟩ := (hvalues form).2 filled hform [.index 0, .name "text"] _ rfl
  rw [hhello, Except.ok.injEq] at hw
  exact ⟨hhello, haged, filled, hform, hw ▸ hplace⟩

end Context
end Formwork
