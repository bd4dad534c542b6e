import Mathlib.Data.List.Nodup
import Formwork.Proofs.Work
import Formwork.Approval.Chain
/-!
# Records of a chain, one by one

A chain changes by replacing the first record that passes a test. Where all ids differ, that is a
change of one record among the members, whatever stands before it, and the lemmas here say so for
every way in which a decision touches the list.
-/
namespace Formwork.Chain

open Calendar

variable {c : Chain}

/-- No two records have the same id. -/
def Distinct (c : Chain) : Prop := (c.map (·.id)).Nodup

theorem Distinct.eq_of_id (h : c.Distinct) {a b : ApprovalRecord} (ha : a ∈ c) (hb : b ∈ c)
    (hid : a.id = b.id) : a = b :=
  List.inj_on_of_nodup_map h ha hb hid

theorem Distinct.map (h : c.Distinct) {f : ApprovalRecord → ApprovalRecord}
    (hf : ∀ r, (f r).id = r.id) : Distinct (c.map f) := by
  have hids : (List.map f c).map (·.id) = c.map (·.id) := by
    rw [List.map_map]
    exact List.map_congr_left fun r _ => hf r
  unfold Distinct
  rw [hids]
  exact h

theorem Distinct.tail {r : ApprovalRecord} {rest : Chain} (h : Distinct (r :: rest)) :
    Distinct rest :=
  (List.nodup_cons.mp h).2

theorem Distinct.head_ne {r : ApprovalRecord} {rest : Chain} (h : Distinct (r :: rest)) :
    ∀ s ∈ rest, s.id ≠ r.id := by
  intro s hs hid
  exact (List.nodup_cons.mp h).1 (List.mem_map.mpr ⟨s, hs, hid⟩)

/-! ## Replacing one record -/

theorem replaceFirst_eq_flatMap (h : c.Distinct) (test : ApprovalRecord → Bool)
    (f : ApprovalRecord → Chain) (hex : ∃ r ∈ c, test r = true) :
    ∃ t ∈ c, test t = true ∧
      c.replaceFirst test f = c.flatMap fun r => if r.id = t.id then f r else [r] := by
  induction c with
  | nil => simp at hex
  | cons r rest ih =>
    by_cases hr : test r = true
    · refine ⟨r, by simp, hr, ?_⟩
      have hrest : (rest.flatMap fun s => if s.id = r.id then f s else [s]) = rest := by
        calc (rest.flatMap fun s => if s.id = r.id then f s else [s])
            = rest.flatMap fun s => [s] := by
              apply List.flatMap_congr
              intro s hs
              simp [h.head_ne s hs]
          _ = rest := by simp
      simp [replaceFirst, hr, hrest]
    · obtain ⟨s, hs, hts⟩ := hex
      have hsr : s ∈ rest := by
        rcases List.mem_cons.mp hs with rfl | hs
        · exact absurd hts hr
        · exact hs
      obtain ⟨t, ht, htest, he⟩ := ih h.tail ⟨s, hsr, hts⟩
      refine ⟨t, List.mem_cons_of_mem _ ht, htest, ?_⟩
      have hne : r.id ≠ t.id := fun hid => h.head_ne t ht hid.symm
      simp [replaceFirst, hr, hne, he]

theorem replaceFirst_eq_map (h : c.Distinct) (test : ApprovalRecord → Bool)
    (f : ApprovalRecord → ApprovalRecord) (hex : ∃ r ∈ c, test r = true) :
    ∃ t ∈ c, test t = true ∧
      c.replaceFirst test (fun r => [f r]) = c.map fun r => if r.id = t.id then f r else r := by
  obtain ⟨t, ht, htest, he⟩ := replaceFirst_eq_flatMap h test (fun r => [f r]) hex
  refine ⟨t, ht, htest, ?_⟩
  rw [he, List.map_eq_flatMap]
  apply List.flatMap_congr
  intro r _
  split <;> rfl

theorem record?_of_mem (h : c.Distinct) {t : ApprovalRecord} (ht : t ∈ c) :
    c.record? t.id = some t := by
  unfold record?
  cases hf : c.find? fun r => r.id == t.id with
  | none => simpa using List.find?_eq_none.mp hf t ht
  | some s =>
    have hid : s.id = t.id := by simpa using List.find?_some hf
    rw [h.eq_of_id (List.mem_of_find?_eq_some hf) ht hid]

theorem write_eq_map (h : c.Distinct) {t : ApprovalRecord} (ht : t ∈ c) (status : ApprovalStatus)
    (v : Verdict) :
    c.write t.id status v = c.map fun r => if r.id = t.id then r.decideAs status v else r := by
  obtain ⟨s, _, hs, he⟩ := replaceFirst_eq_map h (fun r => r.id == t.id)
    (fun r => r.decideAs status v) ⟨t, ht, by simp⟩
  have hid : s.id = t.id := by simpa using hs
  rw [write, he, hid]

theorem openFirst_eq_map (h : c.Distinct) {test : ApprovalRecord → Bool} (time : Stamp)
    (hex : ∃ r ∈ c, test r = true) :
    ∃ t ∈ c, test t = true ∧ (∀ r ∈ c, test r = true → t.position ≤ r.position) ∧
      c.openFirst test time = c.map fun r => if r.id = t.id then r.request time else r := by
  unfold openFirst
  cases hmin : ((c.filter test).map (·.position)).min? with
  | none =>
    obtain ⟨r, hr, htest⟩ := hex
    have hnil : c.filter test = [] := by simpa using hmin
    have hmem : r ∈ c.filter test := List.mem_filter.mpr ⟨hr, htest⟩
    simp [hnil] at hmem
  | some position =>
    obtain ⟨hin, hle⟩ := List.min?_eq_some_iff.mp hmin
    obtain ⟨r, hr, hrp⟩ := List.mem_map.mp hin
    obtain ⟨hrc, hrt⟩ := List.mem_filter.mp hr
    obtain ⟨t, ht, htest, he⟩ := replaceFirst_eq_map h
      (fun r => test r && r.position == position) (fun r => r.request time)
      ⟨r, hrc, by simp [hrt, hrp]⟩
    simp only [Bool.and_eq_true, beq_iff_eq] at htest
    refine ⟨t, ht, htest.1, ?_, he⟩
    intro s hs hst
    rw [htest.2]
    exact hle _ (List.mem_map.mpr ⟨s, List.mem_filter.mpr ⟨hs, hst⟩, rfl⟩)

theorem mem_map_one (h : c.Distinct) {t : ApprovalRecord} (ht : t ∈ c)
    {f : ApprovalRecord → ApprovalRecord} {r : ApprovalRecord} :
    r ∈ (c.map fun s => if s.id = t.id then f s else s) ↔ (r ∈ c ∧ r ≠ t) ∨ r = f t := by
  rw [List.mem_map]
  constructor
  · rintro ⟨s, hs, rfl⟩
    split
    · rename_i hid
      rw [h.eq_of_id hs ht hid]
      exact .inr rfl
    · rename_i hid
      exact .inl ⟨hs, fun he => hid (he ▸ rfl)⟩
  · rintro (⟨hr, hne⟩ | rfl)
    · exact ⟨r, hr, if_neg fun hid => hne (h.eq_of_id hr ht hid)⟩
    · exact ⟨t, ht, if_pos rfl⟩

/-! ## Choosing records -/

theorem mem_latest {r : ApprovalRecord} :
    r ∈ c.latest ↔ r ∈ c ∧ ∀ s ∈ c, s.round ≤ r.round := by
  unfold latest
  cases hmax : (c.map (·.round)).max? with
  | none =>
    have hnil : c = [] := by simpa using hmax
    simp [hnil]
  | some round =>
    obtain ⟨hin, hle⟩ := List.max?_eq_some_iff.mp hmax
    simp only [ofRound, List.mem_filter, beq_iff_eq]
    constructor
    · rintro ⟨hr, rfl⟩
      exact ⟨hr, fun s hs => hle _ (List.mem_map.mpr ⟨s, hs, rfl⟩)⟩
    · rintro ⟨hr, hall⟩
      obtain ⟨s, hs, rfl⟩ := List.mem_map.mp hin
      exact ⟨hr, Int.le_antisymm (hle _ (List.mem_map.mpr ⟨r, hr, rfl⟩)) (hall s hs)⟩

theorem mem_lowest {r : ApprovalRecord} :
    r ∈ c.lowest ↔ r ∈ c ∧ ∀ s ∈ c, r.level ≤ s.level := by
  unfold lowest
  cases hmin : (c.map (·.level)).min? with
  | none =>
    have hnil : c = [] := by simpa using hmin
    simp [hnil]
  | some level =>
    obtain ⟨hin, hle⟩ := List.min?_eq_some_iff.mp hmin
    simp only [List.mem_filter, beq_iff_eq]
    constructor
    · rintro ⟨hr, rfl⟩
      exact ⟨hr, fun s hs => hle _ (List.mem_map.mpr ⟨s, hs, rfl⟩)⟩
    · rintro ⟨hr, hall⟩
      obtain ⟨s, hs, rfl⟩ := List.mem_map.mp hin
      exact ⟨hr, Int.le_antisymm (hall s hs) (hle _ (List.mem_map.mpr ⟨r, hr, rfl⟩))⟩

theorem lowest_eq_nil_iff : c.lowest = [] ↔ c = [] := by
  unfold lowest
  cases hmin : (c.map (·.level)).min? with
  | none =>
    have hnil : c = [] := by simpa using hmin
    simp [hnil]
  | some level =>
    obtain ⟨hin, _⟩ := List.min?_eq_some_iff.mp hmin
    obtain ⟨s, hs, rfl⟩ := List.mem_map.mp hin
    constructor
    · intro hnil
      have hmem : s ∈ c.filter fun r => r.level == s.level := List.mem_filter.mpr ⟨hs, by simp⟩
      simp [hnil] at hmem
    · rintro rfl
      simp at hs

@[simp] theorem mem_byPosition {r : ApprovalRecord} : r ∈ c.byPosition ↔ r ∈ c := by
  simp [byPosition]

theorem mem_of_mem_front {r : ApprovalRecord} (h : r ∈ c.front) : r ∈ c := by
  unfold front at h
  split at h
  · simp at h
  · rename_i first rest hb
    apply mem_byPosition.mp
    rw [hb]
    split at h
    · simp_all
    · exact h

theorem front_eq_nil_iff : c.front = [] ↔ c = [] := by
  unfold front
  split
  · rename_i hb
    have hlen : c.byPosition.length = c.length := by simp [byPosition]
    rw [hb] at hlen
    simpa [eq_comm] using hlen
  · rename_i first rest hb
    have hmem : first ∈ c := mem_byPosition.mp (by simp [hb])
    constructor
    · intro hnil
      split at hnil <;> simp at hnil
    · rintro rfl
      simp at hmem

theorem pending_of_mem_actionable {r : ApprovalRecord} (h : r ∈ c.actionable) :
    r ∈ c ∧ r.status = .pending := by
  have hr := (mem_lowest.mp (mem_of_mem_front h)).1
  obtain ⟨hl, hp⟩ := List.mem_filter.mp hr
  exact ⟨(mem_latest.mp hl).1, by simpa [ApprovalRecord.isPending] using hp⟩

theorem actionable_ne_nil {r : ApprovalRecord} (hr : r ∈ c.latest) (hp : r.status = .pending) :
    c.actionable ≠ [] := by
  have hmem : r ∈ c.latest.filter (·.isPending) :=
    List.mem_filter.mpr ⟨hr, by simpa [ApprovalRecord.isPending] using hp⟩
  intro hnil
  unfold actionable at hnil
  rw [front_eq_nil_iff, lowest_eq_nil_iff] at hnil
  simp [hnil] at hmem

theorem actionableBy?_eq_some {actor : String} {roles : List String} {r : ApprovalRecord}
    (h : c.actionableBy? actor roles = some r) :
    r ∈ c ∧ r.status = .pending ∧ r.admits actor roles = true := by
  have hr := pending_of_mem_actionable (List.mem_of_find?_eq_some h)
  exact ⟨hr.1, hr.2, by simpa using List.find?_some h⟩

end Formwork.Chain
