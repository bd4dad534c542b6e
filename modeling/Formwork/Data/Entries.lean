/-!
Named entries in the order in which their names first came. A later entry of a name replaces the
value and keeps the place; what a reader can see of entries is the value under each name and the
order of the names.
-/
namespace Formwork

abbrev Entries (α : Type) := List (String × α)

namespace Entries
variable {α β : Type}

def get? (name : String) : Entries α → Option α
  | [] => none
  | (n, a) :: rest => if n = name then some a else get? name rest

def has (name : String) (es : Entries α) : Bool := (es.get? name).isSome

def insert (name : String) (a : α) : Entries α → Entries α
  | [] => [(name, a)]
  | (n, b) :: rest => if n = name then (n, a) :: rest else (n, b) :: insert name a rest

/-- The entries of `upper` put into `es` one after another. -/
def overlay (es upper : Entries α) : Entries α := upper.foldl (fun m (n, a) => m.insert n a) es

def names (es : Entries α) : List String := es.map (·.1)

/-- Entries read from a list in which a name may come twice. -/
def ofList (es : List (String × α)) : Entries α := overlay [] es

@[simp] theorem get?_nil (name : String) : get? (α := α) name [] = none := rfl

theorem get?_insert (name n : String) (a : α) (es : Entries α) :
    (insert n a es).get? name = if n = name then some a else es.get? name := by
  induction es with
  | nil => simp [insert, get?]
  | cons e rest ih =>
    obtain ⟨m, b⟩ := e
    by_cases hm : m = n
    · subst hm
      by_cases hn : m = name <;> simp [insert, get?, hn]
    · by_cases hn : m = name
      · subst hn
        simp [insert, get?, hm, Ne.symm hm]
      · simp [insert, get?, hm, hn, ih]

@[simp] theorem get?_insert_self (name : String) (a : α) (es : Entries α) :
    (insert name a es).get? name = some a := by simp [get?_insert]

theorem get?_insert_of_ne {name n : String} (h : n ≠ name) (a : α) (es : Entries α) :
    (insert n a es).get? name = es.get? name := by simp [get?_insert, h]

theorem get?_eq_none_iff {name : String} {es : Entries α} :
    es.get? name = none ↔ name ∉ es.names := by
  induction es with
  | nil => simp [names]
  | cons e rest ih =>
    obtain ⟨m, b⟩ := e
    by_cases hm : m = name
    · simp [get?, names, hm]
    · simp [get?, names, hm, Ne.symm hm] at ih ⊢
      exact ih

end Entries
end Formwork
