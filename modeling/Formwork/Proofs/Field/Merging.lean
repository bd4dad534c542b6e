import Mathlib.Tactic.Common
import Formwork.Field.Update
/-!
# What merged updates set

Updates that are merged set each property to the value that the last of them has for it. That is so
as long as no map names a field or a property twice, and maps that are made of updates never do.
-/
namespace Formwork

/-! ## Entries laid over others -/

namespace Entries

variable {α : Type} {name : String} {es upper : Entries α}

theorem mem_names_insert {n : String} {a : α} :
    name ∈ (insert n a es).names ↔ name = n ∨ name ∈ es.names := by
  induction es with
  | nil => simp [insert, names]
  | cons e rest ih =>
    obtain ⟨m, b⟩ := e
    by_cases hm : m = n
    · subst hm
      simp [insert, names]
    · simp only [names] at ih
      simp [insert, hm, names, ih, or_left_comm]

theorem mem_insert {n : String} {a : α} {e : String × α} (h : e ∈ insert n a es) :
    e = (n, a) ∨ e ∈ es := by
  induction es with
  | nil => simpa [insert] using h
  | cons e' rest ih =>
    obtain ⟨m, b⟩ := e'
    by_cases hm : m = n
    · subst hm
      simp only [insert, ↓reduceIte, List.mem_cons] at h
      exact h.imp id (List.mem_cons_of_mem _)
    · simp only [insert, hm, ↓reduceIte, List.mem_cons] at h
      rcases h with rfl | h
      · exact .inr List.mem_cons_self
      · exact (ih h).imp id (List.mem_cons_of_mem _)

theorem mem_overlay {e : String × α} (h : e ∈ es.overlay upper) : e ∈ es ∨ e ∈ upper := by
  induction upper generalizing es with
  | nil => exact .inl h
  | cons top rest ih =>
    rcases ih h with hunder | hrest
    · rcases mem_insert hunder with rfl | hbase
      · exact .inr List.mem_cons_self
      · exact .inl hbase
    · exact .inr (List.mem_cons_of_mem _ hrest)

theorem mem_ofList {l : List (String × α)} {e : String × α} (h : e ∈ ofList l) : e ∈ l :=
  (mem_overlay h).resolve_left List.not_mem_nil

theorem mem_of_get? {a : α} (h : es.get? name = some a) : (name, a) ∈ es := by
  induction es with
  | nil => cases h
  | cons e rest ih =>
    obtain ⟨m, b⟩ := e
    by_cases hm : m = name
    · subst hm
      simp only [get?, ↓reduceIte, Option.some.injEq] at h
      rw [h]
      exact List.mem_cons_self
    · simp only [get?, hm, ↓reduceIte] at h
      exact List.mem_cons_of_mem _ (ih h)

theorem nodup_insert (h : es.names.Nodup) (n : String) (a : α) : (insert n a es).names.Nodup := by
  induction es with
  | nil => simp [insert, names]
  | cons e rest ih =>
    obtain ⟨m, b⟩ := e
    obtain ⟨hm, hrest⟩ := List.nodup_cons.mp h
    by_cases hn : m = n
    · simpa [insert, hn, names] using h
    · have hnot : m ∉ (insert n a rest).names := by
        rw [mem_names_insert]
        rintro (hmn | hmem)
        · exact hn hmn
        · exact hm hmem
      have hinsert : insert n a ((m, b) :: rest) = (m, b) :: insert n a rest := by
        simp [insert, hn]
      rw [hinsert]
      exact List.nodup_cons.mpr ⟨hnot, ih hrest⟩

theorem nodup_overlay (h : es.names.Nodup) (upper : Entries α) :
    (es.overlay upper).names.Nodup := by
  induction upper generalizing es with
  | nil => exact h
  | cons e rest ih => exact ih (nodup_insert h e.1 e.2)

theorem get?_overlay (h : upper.names.Nodup) (es : Entries α) (name : String) :
    (es.overlay upper).get? name = (upper.get? name).or (es.get? name) := by
  induction upper generalizing es with
  | nil => rfl
  | cons e rest ih =>
    obtain ⟨n, a⟩ := e
    obtain ⟨hn, hrest⟩ := List.nodup_cons.mp h
    have hcons : es.overlay ((n, a) :: rest) = (insert n a es).overlay rest := rfl
    rw [hcons, ih hrest, get?_insert]
    by_cases hname : n = name
    · subst hname
      have hnone : Entries.get? n rest = none := get?_eq_none_iff.mpr hn
      simp [get?, hnone]
    · simp [get?, hname]

end Entries

/-! ## Maps of updates -/

namespace Updates

variable {m upper : Updates} {field property : String}

/-- No field is named twice, and none of the properties of a field is. -/
structure Proper (m : Updates) : Prop where
  fields : (Entries.names m).Nodup
  properties : ∀ e ∈ m, (Entries.names e.2).Nodup

theorem Proper.nil : Proper [] := ⟨List.nodup_nil, fun _ h => absurd h List.not_mem_nil⟩

theorem Proper.add (h : m.Proper) (field : String) (properties : Entries Value) :
    (m.add field properties).Proper where
  fields := Entries.nodup_insert h.fields _ _
  properties e he := by
    rcases Entries.mem_insert he with rfl | he
    · apply Entries.nodup_overlay
      cases hfound : Entries.get? field m with
      | none => exact List.nodup_nil
      | some held => exact h.properties _ (Entries.mem_of_get? hfound)
    · exact h.properties e he

theorem Proper.set (h : m.Proper) (u : Update) : (m.set u).Proper := h.add _ _

theorem Proper.foldl_set (h : m.Proper) (us : List Update) : Proper (us.foldl Updates.set m) := by
  induction us generalizing m with
  | nil => exact h
  | cons u rest ih => exact ih (h.set u)

theorem ofList_proper (us : List Update) : (ofList us).Proper := Proper.nil.foldl_set us

theorem get?_add {properties : Entries Value} (h : properties.names.Nodup) (m : Updates)
    (f field property : String) : (m.add f properties).get? field property =
      if f = field then (properties.get? property).or (m.get? field property)
      else m.get? field property := by
  unfold get? add
  rw [Entries.get?_insert]
  by_cases hfield : f = field
  · subst hfield
    simp only [↓reduceIte, Option.bind_some, Entries.get?_overlay h]
    cases hfound : Entries.get? f m with
    | none => rfl
    | some held => rfl
  · simp only [hfield, ↓reduceIte]

theorem get?_merge (h : upper.Proper) (m : Updates) (field property : String) :
    (m.merge upper).get? field property =
      (upper.get? field property).or (m.get? field property) := by
  induction upper generalizing m with
  | nil => rfl
  | cons e rest ih =>
    obtain ⟨f, properties⟩ := e
    obtain ⟨hf, hfields⟩ := List.nodup_cons.mp h.fields
    have hproperties : properties.names.Nodup := h.properties (f, properties) List.mem_cons_self
    have hrest : Proper rest := ⟨hfields, fun e he => h.properties e (List.mem_cons_of_mem _ he)⟩
    have hcons : m.merge ((f, properties) :: rest) = (m.add f properties).merge rest := rfl
    rw [hcons, ih hrest, get?_add hproperties]
    by_cases hfield : f = field
    · subst hfield
      have hnone : Entries.get? f rest = none := Entries.get?_eq_none_iff.mpr hf
      simp [get?, Entries.get?, hnone]
    · simp [get?, Entries.get?, hfield]

/-- The value that the last of some maps has for a property. -/
def last? (maps : List Updates) (field property : String) : Option Value :=
  maps.reverse.findSome? (·.get? field property)

@[simp] theorem last?_nil : last? [] field property = none := rfl

theorem last?_append (maps later : List Updates) : last? (maps ++ later) field property =
    (last? later field property).or (last? maps field property) := by
  simp [last?, List.findSome?_append]

theorem last?_cons (m : Updates) (later : List Updates) : last? (m :: later) field property =
    (last? later field property).or (m.get? field property) := by
  simp [last?, List.findSome?_append]

theorem get?_foldl_merge (maps : List Updates) (h : ∀ upper ∈ maps, upper.Proper) (m : Updates) :
    get? (maps.foldl merge m) field property =
      (last? maps field property).or (m.get? field property) := by
  induction maps generalizing m with
  | nil => rfl
  | cons upper rest ih =>
    rw [List.foldl_cons, ih (fun u hu => h u (List.mem_cons_of_mem _ hu)),
      get?_merge (h upper List.mem_cons_self), last?_cons, Option.or_assoc]

theorem get?_mergeAll {maps : List Updates} (h : ∀ upper ∈ maps, upper.Proper) :
    (mergeAll maps).get? field property = last? maps field property := by
  have hmerged : get? (maps.foldl merge []) field property =
      (last? maps field property).or (get? [] field property) := get?_foldl_merge maps h []
  simpa [mergeAll, get?] using hmerged

/-- The map of one update. -/
def single (u : Update) : Updates := ofList [u]

theorem ofList_eq_mergeAll (us : List Update) : ofList us = mergeAll (us.map single) := by
  have hset : set = fun m u => merge m (single u) := rfl
  rw [ofList, mergeAll, List.foldl_map, hset]

theorem get?_ofList (us : List Update) :
    (ofList us).get? field property = last? (us.map single) field property := by
  rw [ofList_eq_mergeAll]
  apply get?_mergeAll
  intro upper hupper
  obtain ⟨u, -, rfl⟩ := List.mem_map.mp hupper
  exact ofList_proper [u]

end Updates
end Formwork
