import Mathlib.Data.List.Nodup
import Mathlib.Data.List.ReduceOption
import Formwork.Proofs.Field.Merging
/-!
# Updates merged in groups

Maps of updates are laid over one another from left to right, and it does not matter how they are
put into groups for that: a map that was itself merged counts as the maps that it was merged of. So
whatever merges updates on its way, one by one or map by map, comes to the same as the updates
carried out one after another, and each property has the value of the last of them that sets it.
-/
namespace Formwork

/-! ## Entries -/

namespace Entries

variable {α : Type} {es q upper : Entries α} {n m : String} {a b : α}

theorem insert_insert (n : String) (a b : α) (es : Entries α) :
    insert n b (insert n a es) = insert n b es := by
  induction es with
  | nil => simp [insert]
  | cons e rest ih =>
    obtain ⟨m, c⟩ := e
    by_cases hm : m = n
    · simp [insert, hm]
    · simp [insert, hm, ih]

/-- A name that is there keeps its place, so another one can be put in before or behind it. -/
theorem insert_comm (hne : n ≠ m) (hn : n ∈ es.names) (a b : α) :
    insert n a (insert m b es) = insert m b (insert n a es) := by
  induction es with
  | nil => simp [names] at hn
  | cons e rest ih =>
    obtain ⟨k, c⟩ := e
    by_cases hkn : k = n
    · subst hkn
      simp [insert, hne]
    · have hrest : n ∈ names rest := by
        simp only [names, List.map_cons, List.mem_cons] at hn
        exact hn.resolve_left (Ne.symm hkn)
      by_cases hkm : k = m
      · simp [insert, hkm, Ne.symm hne]
      · simp [insert, hkn, hkm, ih hrest]

theorem insert_of_not_mem (h : n ∉ es.names) (a : α) : insert n a es = es ++ [(n, a)] := by
  induction es with
  | nil => rfl
  | cons e rest ih =>
    obtain ⟨k, c⟩ := e
    simp only [names, List.map_cons, List.mem_cons, not_or] at h
    have hrest : insert n a rest = rest ++ [(n, a)] := ih h.2
    simp [insert, Ne.symm h.1, hrest]

theorem names_append (es upper : Entries α) : names (es ++ upper) = es.names ++ upper.names :=
  List.map_append

theorem overlay_cons (es : Entries α) (n : String) (a : α) (upper : Entries α) :
    es.overlay ((n, a) :: upper) = (insert n a es).overlay upper := rfl

theorem insert_overlay (hes : n ∈ es.names) (hupper : n ∉ upper.names) (a : α) :
    insert n a (es.overlay upper) = (insert n a es).overlay upper := by
  induction upper generalizing es with
  | nil => rfl
  | cons e rest ih =>
    obtain ⟨m, b⟩ := e
    simp only [names, List.map_cons, List.mem_cons, not_or] at hupper
    rw [overlay_cons, overlay_cons, ih (mem_names_insert.mpr (.inr hes)) hupper.2,
      insert_comm hupper.1 hes]

theorem overlay_insert (h : q.names.Nodup) (es : Entries α) (n : String) (a : α) :
    es.overlay (insert n a q) = insert n a (es.overlay q) := by
  induction q generalizing es with
  | nil => rfl
  | cons e rest ih =>
    obtain ⟨m, b⟩ := e
    obtain ⟨hm, hrest⟩ := List.nodup_cons.mp h
    rw [overlay_cons]
    by_cases hmn : m = n
    · subst hmn
      have hinsert : insert m a ((m, b) :: rest) = (m, a) :: rest := by simp [insert]
      rw [hinsert, overlay_cons, insert_overlay (mem_names_insert.mpr (.inl rfl)) hm,
        insert_insert]
    · have hinsert : insert n a ((m, b) :: rest) = (m, b) :: insert n a rest := by
        simp [insert, hmn]
      rw [hinsert, overlay_cons, ih hrest]

theorem overlay_overlay (h : q.names.Nodup) (es upper : Entries α) :
    es.overlay (q.overlay upper) = (es.overlay q).overlay upper := by
  induction upper generalizing q with
  | nil => rfl
  | cons e rest ih =>
    obtain ⟨n, a⟩ := e
    rw [overlay_cons, overlay_cons, ih (nodup_insert h n a), overlay_insert h]

theorem overlay_eq_append (h : (es ++ upper).names.Nodup) : es.overlay upper = es ++ upper := by
  induction upper generalizing es with
  | nil => exact (List.append_nil es).symm
  | cons e rest ih =>
    obtain ⟨n, a⟩ := e
    have hsplit : (es ++ [(n, a)] ++ rest).names.Nodup := by simpa using h
    have hn : n ∉ es.names := by
      rw [names_append] at h
      exact fun hmem => (List.disjoint_of_nodup_append h) hmem List.mem_cons_self
    rw [overlay_cons, insert_of_not_mem hn, ih hsplit, List.append_assoc, List.singleton_append]

theorem nil_overlay (h : upper.names.Nodup) : overlay [] upper = upper := overlay_eq_append h

end Entries

/-! ## Maps of updates -/

namespace Updates

variable {m q upper : Updates} {f g : String} {ps qs : Entries Value}

/-- What a map holds for a field. -/
def held (m : Updates) (f : String) : Entries Value := (Entries.get? f m).getD []

theorem add_eq (m : Updates) (f : String) (ps : Entries Value) :
    m.add f ps = m.insert f ((m.held f).overlay ps) := rfl

theorem add_add (h : qs.names.Nodup) (m : Updates) (f : String) (ps : Entries Value) :
    (m.add f qs).add f ps = m.add f (qs.overlay ps) := by
  have hheld : (m.add f qs).held f = (m.held f).overlay qs := by
    rw [held, add_eq, Entries.get?_insert_self, Option.getD_some]
  rw [add_eq, hheld, ← Entries.overlay_overlay h, add_eq, Entries.insert_insert, ← add_eq]

theorem held_add_of_ne (h : f ≠ g) (m : Updates) (ps : Entries Value) :
    (m.add f ps).held g = m.held g := by
  rw [held, add_eq, Entries.get?_insert_of_ne h, ← held]

theorem add_comm (hne : f ≠ g) (hf : f ∈ Entries.names m) (ps qs : Entries Value) :
    (m.add g qs).add f ps = (m.add f ps).add g qs := by
  rw [add_eq (m.add g qs), held_add_of_ne (Ne.symm hne), add_eq (m.add f ps), held_add_of_ne hne,
    add_eq, add_eq, Entries.insert_comm hne hf]

theorem mem_names_add (m : Updates) (f : String) (ps : Entries Value) :
    f ∈ Entries.names (m.add f ps) := Entries.mem_names_insert.mpr (.inl rfl)

theorem merge_cons (m : Updates) (f : String) (ps : Entries Value) (upper : Updates) :
    m.merge ((f, ps) :: upper) = (m.add f ps).merge upper := rfl

theorem add_merge (hm : f ∈ Entries.names m) (hupper : f ∉ Entries.names upper)
    (ps : Entries Value) : (m.merge upper).add f ps = (m.add f ps).merge upper := by
  induction upper generalizing m with
  | nil => rfl
  | cons e rest ih =>
    obtain ⟨g, qs⟩ := e
    simp only [Entries.names, List.map_cons, List.mem_cons, not_or] at hupper
    have hadded : f ∈ Entries.names (m.add g qs) := Entries.mem_names_insert.mpr (.inr hm)
    rw [merge_cons, merge_cons, ih hadded hupper.2, add_comm hupper.1 hm]

theorem merge_add (h : q.Proper) (m : Updates) (f : String) (ps : Entries Value) :
    m.merge (q.add f ps) = (m.merge q).add f ps := by
  induction q generalizing m with
  | nil =>
    have hnil : (Entries.names ([] : Entries Value)).Nodup := List.nodup_nil
    have hpair : m.merge (add [] f ps) = m.add f (Entries.overlay [] ps) := rfl
    rw [hpair, add_eq, Entries.overlay_overlay hnil]
    rfl
  | cons e rest ih =>
    obtain ⟨g, qs⟩ := e
    obtain ⟨hg, hfields⟩ := List.nodup_cons.mp h.fields
    have hqs : qs.names.Nodup := h.properties (g, qs) List.mem_cons_self
    have hrest : Proper rest := ⟨hfields, fun e he => h.properties e (List.mem_cons_of_mem _ he)⟩
    rw [merge_cons]
    by_cases hgf : g = f
    · subst hgf
      have hadd : add ((g, qs) :: rest) g ps = (g, qs.overlay ps) :: rest := by
        simp [add, Entries.get?, Entries.insert]
      rw [hadd, merge_cons, add_merge (mem_names_add m g qs) hg, add_add hqs]
    · have hadd : add ((g, qs) :: rest) f ps = (g, qs) :: add rest f ps := by
        simp [add, Entries.get?, Entries.insert, hgf]
      rw [hadd, merge_cons, ih hrest]

theorem Proper.merge (h : m.Proper) (upper : Updates) : (m.merge upper).Proper := by
  induction upper generalizing m with
  | nil => exact h
  | cons e rest ih => exact ih (h.add e.1 e.2)

theorem merge_merge (h : q.Proper) (m upper : Updates) :
    m.merge (q.merge upper) = (m.merge q).merge upper := by
  induction upper generalizing q with
  | nil => rfl
  | cons e rest ih =>
    obtain ⟨f, ps⟩ := e
    rw [merge_cons, merge_cons, ih (h.add f ps), merge_add h]

theorem add_of_not_mem (hps : ps.names.Nodup) (hf : f ∉ Entries.names m) :
    m.add f ps = m ++ [(f, ps)] := by
  have hnone : Entries.get? f m = none := Entries.get?_eq_none_iff.mpr hf
  have hheld : m.held f = [] := by rw [held, hnone, Option.getD_none]
  rw [add_eq, hheld, Entries.nil_overlay hps, Entries.insert_of_not_mem hf]

theorem merge_eq_append (h : Proper (m ++ upper)) : m.merge upper = m ++ upper := by
  induction upper generalizing m with
  | nil => exact (List.append_nil m).symm
  | cons e rest ih =>
    obtain ⟨f, ps⟩ := e
    have hps : ps.names.Nodup :=
      h.properties (f, ps) (List.mem_append_right m List.mem_cons_self)
    have hf : f ∉ Entries.names m := by
      have hnames := h.fields
      rw [Entries.names_append] at hnames
      exact fun hmem => (List.disjoint_of_nodup_append hnames) hmem List.mem_cons_self
    have hsplit : Proper (m ++ [(f, ps)] ++ rest) := by simpa using h
    rw [merge_cons, add_of_not_mem hps hf, ih hsplit, List.append_assoc, List.singleton_append]

theorem mergeAll_singleton (h : m.Proper) : mergeAll [m] = m := merge_eq_append h

/-! ## Several maps -/

theorem merge_foldl (h : q.Proper) (m : Updates) (maps : List Updates) :
    m.merge (maps.foldl merge q) = maps.foldl merge (m.merge q) := by
  induction maps generalizing q with
  | nil => rfl
  | cons upper rest ih => rw [List.foldl_cons, List.foldl_cons, ih (h.merge upper), merge_merge h]

theorem merge_mergeAll (m : Updates) (maps : List Updates) :
    m.merge (mergeAll maps) = maps.foldl merge m := merge_foldl Proper.nil m maps

theorem mergeAll_regroup (before group after : List Updates) :
    mergeAll (before ++ mergeAll group :: after) = mergeAll (before ++ group ++ after) := by
  unfold mergeAll
  rw [List.foldl_append, List.foldl_cons, List.foldl_append, List.foldl_append]
  exact congrArg (List.foldl merge · after) (merge_mergeAll _ group)

theorem foldl_set (m : Updates) (us : List Update) : us.foldl set m = m.merge (ofList us) := by
  have hset : set = fun m u => merge m (single u) := rfl
  rw [ofList_eq_mergeAll, merge_mergeAll, List.foldl_map, hset]

/-- Lists of updates that are carried out each by itself and then merged come to the same as if they
were carried out one behind the other. -/
theorem mergeAll_ofList (lists : List (List Update)) :
    mergeAll (lists.map ofList) = ofList lists.flatten := by
  unfold mergeAll ofList
  rw [List.foldl_map, List.foldl_flatten]
  congr 1
  funext m us
  exact (foldl_set m us).symm

/-- The updates of several maps in their order, where some may be missing. -/
def mergeGiven (maps : List (Option Updates)) : Updates := mergeAll maps.reduceOption

theorem mergeGiven_regroup (before group after : List (Option Updates)) :
    mergeGiven (before ++ some (mergeGiven group) :: after) =
      mergeGiven (before ++ group ++ after) := by
  unfold mergeGiven
  rw [List.reduceOption_append, List.reduceOption_cons_of_some, List.reduceOption_append,
    List.reduceOption_append]
  exact mergeAll_regroup _ _ _

theorem mergeGiven_none (before after : List (Option Updates)) :
    mergeGiven (before ++ none :: after) = mergeGiven (before ++ after) := by
  unfold mergeGiven
  rw [List.reduceOption_append, List.reduceOption_cons_of_none, List.reduceOption_append]

/-! ## Who counts -/

variable {field property : String} {v : Value}

theorem findSome?_reverse_eq_some_iff {α β : Type} {f : α → Option β} {l : List α} {b : β} :
    l.reverse.findSome? f = some b ↔
      ∃ before a after, l = before ++ a :: after ∧ f a = some b ∧ ∀ x ∈ after, f x = none := by
  rw [List.findSome?_eq_some_iff]
  constructor
  · rintro ⟨after, a, before, hsplit, ha, hafter⟩
    have hl : l = before.reverse ++ a :: after.reverse := by
      simpa using congrArg List.reverse hsplit
    exact ⟨before.reverse, a, after.reverse, hl, ha,
      fun x hx => hafter x (List.mem_reverse.mp hx)⟩
  · rintro ⟨before, a, after, rfl, ha, hafter⟩
    exact ⟨after.reverse, a, before.reverse, by simp, ha,
      fun x hx => hafter x (List.mem_reverse.mp hx)⟩

theorem mergeGiven_eq_some_iff {maps : List (Option Updates)}
    (proper : ∀ m, some m ∈ maps → m.Proper) :
    (mergeGiven maps).get? field property = some v ↔
      ∃ before m after, maps = before ++ some m :: after ∧ m.get? field property = some v ∧
        ∀ later, some later ∈ after → later.get? field property = none := by
  have hproper : ∀ m ∈ maps.reduceOption, m.Proper :=
    fun m hm => proper m (List.reduceOption_mem_iff.mp hm)
  rw [mergeGiven, get?_mergeAll hproper, last?, List.reduceOption, ← List.filterMap_reverse,
    ← List.head?_filterMap, List.filterMap_filterMap, List.head?_filterMap,
    findSome?_reverse_eq_some_iff]
  constructor
  · rintro ⟨before, given, after, hsplit, hset, hlater⟩
    obtain ⟨m, rfl, hm⟩ := Option.bind_eq_some_iff.mp hset
    exact ⟨before, m, after, hsplit, hm, fun later h => hlater (some later) h⟩
  · rintro ⟨before, m, after, hsplit, hm, hlater⟩
    refine ⟨before, some m, after, hsplit, hm, fun given hgiven => ?_⟩
    cases given with
    | none => rfl
    | some later => exact hlater later hgiven

end Updates

namespace Update

/-- The update sets the property of the field. -/
def Sets (u : Update) (field property : String) : Prop :=
  u.field = field ∧ u.property.name = property

end Update

namespace Updates

variable {field property : String} {v : Value} {us : List Update}

theorem single_eq (u : Update) : single u = [(u.field, [(u.property.name, u.value)])] := rfl

theorem get?_single (u : Update) : (single u).get? field property =
    if u.field = field ∧ u.property.name = property then some u.value else none := by
  rw [single_eq, get?, Entries.get?]
  by_cases hfield : u.field = field
  · by_cases hproperty : u.property.name = property
    · simp [hfield, hproperty, Entries.get?]
    · simp [hfield, hproperty, Entries.get?]
  · simp [hfield]

theorem get?_single_eq_some_iff {u : Update} :
    (single u).get? field property = some v ↔ u.Sets field property ∧ u.value = v := by
  rw [get?_single, Option.ite_none_right_eq_some, Option.some.injEq, Update.Sets]

theorem get?_single_eq_none_iff {u : Update} :
    (single u).get? field property = none ↔ ¬ u.Sets field property := by
  rw [get?_single, Update.Sets]
  simp

theorem get?_ofList_eq_some_iff : (ofList us).get? field property = some v ↔
    ∃ before u after, us = before ++ u :: after ∧ u.Sets field property ∧ u.value = v ∧
      ∀ later ∈ after, ¬ later.Sets field property := by
  rw [get?_ofList, last?, ← List.map_reverse, List.findSome?_map,
    findSome?_reverse_eq_some_iff]
  simp only [Function.comp_apply, get?_single_eq_some_iff, get?_single_eq_none_iff, and_assoc]

theorem get?_ofList_isSome_iff : ((ofList us).get? field property).isSome = true ↔
    ∃ u ∈ us, u.Sets field property := by
  rw [get?_ofList, last?, List.findSome?_isSome_iff]
  simp only [List.mem_reverse, List.mem_map, exists_exists_and_eq_and, Option.isSome_iff_ne_none,
    ne_eq, get?_single_eq_none_iff, not_not]

end Updates
end Formwork
