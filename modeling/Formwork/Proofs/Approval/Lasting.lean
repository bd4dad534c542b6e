import Mathlib.Data.List.Forall2
import Formwork.Proofs.Approval.Turn
/-!
# What lasts of a chain

No move takes a record away, moves it to another place or asks somebody else in its stead. A record
that is decided stays as it is, unless the move is for that very record. All this is said of one
relation between the records of a chain, in their order, and those of a later chain among which they
are found again.
-/
namespace Formwork

open Calendar

/-- What lasts of a record: its seat and whom it asks. All of it does, once it is decided, unless its
id is among those that are touched. -/
structure ApprovalRecord.Lasts (touched : String → Prop) (r s : ApprovalRecord) : Prop
    extends r.SameSeat s where
  approver : s.approver = r.approver
  role : s.role = r.role
  decided : r.status.isOpen = false → ¬ touched r.id → s = r

namespace ApprovalRecord

variable {touched touched' : String → Prop} {r s : ApprovalRecord}

theorem Lasts.refl (touched : String → Prop) (r : ApprovalRecord) : r.Lasts touched r :=
  ⟨.refl r, rfl, rfl, fun _ _ => rfl⟩

theorem Lasts.trans {s' : ApprovalRecord} (h : r.Lasts touched s) (h' : s.Lasts touched s') :
    r.Lasts touched s' where
  toSameSeat := h.toSameSeat.trans h'.toSameSeat
  approver := h'.approver.trans h.approver
  role := h'.role.trans h.role
  decided closed untouched := by
    have he : s = r := h.decided closed untouched
    subst he
    exact h'.decided closed untouched

theorem Lasts.mono (h : r.Lasts touched s) (more : ∀ id, touched id → touched' id) :
    r.Lasts touched' s :=
  ⟨h.toSameSeat, h.approver, h.role, fun closed untouched =>
    h.decided closed fun ht => untouched (more _ ht)⟩

theorem SameSeat.lasts_of_open (h : r.SameSeat s) (approver : s.approver = r.approver)
    (role : s.role = r.role) (isOpen : r.status.isOpen = true) : r.Lasts touched s := by
  refine ⟨h, approver, role, fun closed _ => ?_⟩
  rw [isOpen] at closed
  cases closed

theorem SameSeat.lasts_of_touched (h : r.SameSeat s) (approver : s.approver = r.approver)
    (role : s.role = r.role) (ht : touched r.id) : r.Lasts touched s :=
  ⟨h, approver, role, fun _ untouched => absurd ht untouched⟩

theorem lasts_superseded (r target : ApprovalRecord) (time : Stamp) :
    r.Lasts touched (r.superseded target time) := by
  unfold superseded
  split
  · rename_i hopen
    exact SameSeat.lasts_of_open ⟨rfl, rfl, rfl, rfl, rfl⟩ rfl rfl (Bool.and_eq_true_iff.mp hopen).2
  · exact .refl touched r

theorem lasts_dropped (r target : ApprovalRecord) : r.Lasts touched (r.dropped target) := by
  unfold dropped
  split
  · rename_i hopen
    exact SameSeat.lasts_of_open ⟨rfl, rfl, rfl, rfl, rfl⟩ rfl rfl (Bool.and_eq_true_iff.mp hopen).2
  · exact .refl touched r

theorem isOpen_of_isWaiting (h : r.isWaiting = true) : r.status.isOpen = true := by
  rw [ApprovalStatus.isOpen_iff]
  exact .inl (by simpa [isWaiting] using h)

end ApprovalRecord

namespace Chain

variable {touched touched' : String → Prop} {a b c c' : Chain} {t : ApprovalRecord} {v : Verdict}
  {o : ApprovalOutcome}

/-! ## Ids -/

/-- The ids of a chain are among those of another one, in the same order. -/
def Within (c c' : Chain) : Prop := (c.map (·.id)).Sublist (c'.map (·.id))

theorem Distinct.of_within (h : c'.Distinct) (hw : c.Within c') : c.Distinct := h.sublist hw

theorem Within.ne_nil (h : c.Within c') (hne : c ≠ []) : c' ≠ [] := by
  rintro rfl
  exact hne (List.map_eq_nil_iff.mp (List.sublist_nil.mp h))

/-! ## Records -/

/-- The records of a chain are found again in another one, in the same order. -/
def Lasts (touched : String → Prop) (c c' : Chain) : Prop :=
  List.SublistForall₂ (ApprovalRecord.Lasts touched) c c'

theorem Lasts.refl (touched : String → Prop) (c : Chain) : c.Lasts touched c := by
  induction c with
  | nil => exact .nil
  | cons r rest ih => exact .cons (.refl touched r) ih

theorem Lasts.of_eq (h : c' = c) : c.Lasts touched c' := by
  rw [h]
  exact .refl touched c

theorem Lasts.trans {c'' : Chain} (h : c.Lasts touched c') (h' : c'.Lasts touched c'') :
    c.Lasts touched c'' := by
  have : IsTrans ApprovalRecord (ApprovalRecord.Lasts touched) := ⟨fun _ _ _ => .trans⟩
  exact List.SublistForall₂.is_trans.trans c c' c'' h h'

theorem Lasts.mono (h : c.Lasts touched c') (more : ∀ id, touched id → touched' id) :
    c.Lasts touched' c' := by
  induction h with
  | nil => exact .nil
  | cons hr _ ih => exact .cons (hr.mono more) ih
  | cons_right _ ih => exact .cons_right ih

theorem Lasts.of_append (c more : Chain) : c.Lasts touched (c ++ more) := by
  induction c with
  | nil => exact .nil
  | cons r rest ih => exact .cons (.refl touched r) ih

theorem Lasts.behind (h : c.Lasts touched c') (more : Chain) : c.Lasts touched (more ++ c') := by
  induction more with
  | nil => exact h
  | cons r rest ih => exact .cons_right ih

theorem Lasts.within (h : c.Lasts touched c') : c.Within c' := by
  induction h with
  | nil => exact List.nil_sublist _
  | @cons r s c c' hr _ ih =>
    unfold Within
    rw [List.map_cons, List.map_cons, hr.id]
    exact ih.cons_cons r.id
  | cons_right _ ih => exact ih.cons _

theorem Lasts.found (h : c.Lasts touched c') {r : ApprovalRecord} (hr : r ∈ c) :
    ∃ s ∈ c', r.Lasts touched s := by
  induction h with
  | nil => cases hr
  | cons hlasts _ ih =>
    rcases List.mem_cons.mp hr with rfl | hr
    · exact ⟨_, List.mem_cons_self, hlasts⟩
    · obtain ⟨s, hs, hrs⟩ := ih hr
      exact ⟨s, List.mem_cons_of_mem _ hs, hrs⟩
  | cons_right _ ih =>
    obtain ⟨s, hs, hrs⟩ := ih hr
    exact ⟨s, List.mem_cons_of_mem _ hs, hrs⟩

theorem Lasts.map {f : ApprovalRecord → ApprovalRecord}
    (hf : ∀ r : ApprovalRecord, r.Lasts touched (f r)) : c.Lasts touched (c.map f) := by
  induction c with
  | nil => exact .nil
  | cons r rest ih => exact .cons (hf r) ih

theorem Lasts.replaceFirst {test : ApprovalRecord → Bool} {f : ApprovalRecord → Chain}
    (hf : ∀ r, test r = true → ∃ s ∈ f r, r.Lasts touched s) :
    c.Lasts touched (c.replaceFirst test f) := by
  induction c with
  | nil => exact .nil
  | cons r rest ih =>
    unfold Chain.replaceFirst
    split
    · rename_i htest
      obtain ⟨s, hs, hrs⟩ := hf r htest
      obtain ⟨before, after, he⟩ := List.append_of_mem hs
      rw [he, List.append_assoc, List.cons_append]
      exact Lasts.behind (.cons hrs ((Lasts.refl touched rest).behind after)) before
    · exact .cons (.refl touched r) ih

/-! ## The parts of a move -/

theorem lasts_write (c : Chain) (id : String) (status : ApprovalStatus) (v : Verdict) :
    c.Lasts (· = id) (c.write id status v) :=
  Lasts.replaceFirst fun r htest => ⟨_, List.mem_singleton.mpr rfl,
    (r.sameSeat_decideAs status v).lasts_of_touched rfl rfl (by simpa using htest)⟩

section Opening

variable {test : ApprovalRecord → Bool} (waits : ∀ r, test r = true → r.isWaiting = true)

include waits

theorem lasts_openFirst (time : Stamp) (c : Chain) : c.Lasts touched (c.openFirst test time) := by
  unfold openFirst
  split
  · exact .refl touched c
  · apply Lasts.replaceFirst
    intro r htest
    rw [Bool.and_eq_true] at htest
    exact ⟨_, List.mem_singleton.mpr rfl, (r.sameSeat_request time).lasts_of_open rfl rfl
      (ApprovalRecord.isOpen_of_isWaiting (waits r htest.1))⟩

theorem lasts_openAll (time : Stamp) (c : Chain) : c.Lasts touched (c.openAll test time) := by
  apply Lasts.map
  intro r
  split
  · rename_i htest
    exact (r.sameSeat_request time).lasts_of_open rfl rfl
      (ApprovalRecord.isOpen_of_isWaiting (waits r htest))
  · exact .refl touched r

end Opening

theorem lasts_settle (c : Chain) (target : ApprovalRecord) (time : Stamp) :
    c.Lasts touched (c.settle target time) := by
  rw [settle_eq_map]
  exact Lasts.map fun r => r.lasts_superseded target time

theorem lasts_advance (c : Chain) (target : ApprovalRecord) (time : Stamp) :
    c.Lasts touched (c.advance target time).1 := by
  unfold advance
  split
  · exact lasts_settle c target time
  · dsimp only
    split
    · exact lasts_openFirst (fun r hr => (Bool.and_eq_true_iff.mp hr).2) time c
    · exact .refl touched c
  · exact .refl touched c

theorem lasts_openNext? {target : ApprovalRecord} {time : Stamp}
    (h : c.openNext? target time = some c') : c.Lasts touched c' := by
  have hbehind : ∀ (level : Int) (r : ApprovalRecord),
      (r.waitsBehind target && r.level == level) = true → r.isWaiting = true := by
    intro level r hr
    simp only [Bool.and_eq_true, ApprovalRecord.waitsBehind] at hr
    exact hr.1.2
  unfold openNext? at h
  dsimp only at h
  split at h
  · simp at h
  · simp only [Option.some.injEq] at h
    rw [← h]
    split
    · exact lasts_openFirst (hbehind _) time c
    · exact lasts_openAll (hbehind _) time c

theorem lasts_markEscalated (c : Chain) (id : String) : c.Lasts (· = id) (c.markEscalated id) := by
  rw [markEscalated_eq_map]
  apply Lasts.map
  intro r
  split
  · rename_i hid
    exact (r.sameSeat_marked).lasts_of_touched rfl rfl hid
  · exact .refl _ r

/-! ## Moves -/

theorem lasts_approve (c : Chain) (target : ApprovalRecord) (v : Verdict) :
    c.Lasts (· = target.id) (c.approve target v).chain := by
  have hadvanced := (lasts_write c target.id .approved v).trans (lasts_advance _ target v.time)
  unfold approve
  dsimp only
  split
  · split
    · rename_i hnext
      exact hadvanced.trans (lasts_openNext? hnext)
    · exact hadvanced
  · exact hadvanced

theorem lasts_reject (c : Chain) (target : ApprovalRecord) (v : Verdict) :
    c.Lasts (· = target.id) (c.reject target v).chain := by
  rw [reject_eq_map]
  exact (lasts_write c target.id .rejected v).trans (Lasts.map fun r => r.lasts_dropped target)

theorem lasts_handOver (c : Chain) (target : ApprovalRecord) (id delegate : String) (v : Verdict) :
    c.Lasts (· = target.id) (c.handOver target id delegate v).chain :=
  Lasts.replaceFirst fun r htest => ⟨_, List.mem_cons_self,
    (r.sameSeat_handedTo delegate v).lasts_of_touched rfl rfl (by simpa using htest)⟩

theorem Decides.lasts (h : c.Decides t v o) : c.Lasts (· = t.id) o.chain := by
  cases h with
  | approve _ => exact lasts_approve c t v
  | reject _ => exact lasts_reject c t v
  | handOver id _ given => exact lasts_handOver c t id _ v

theorem Does.lasts {move : Move} (h : c.Does t move o) : c.Lasts (· = t.id) o.chain := by
  cases h with
  | decision _ decides => exact decides.lasts
  | escalation _ decides => exact (lasts_markEscalated c t.id).trans decides.lasts
  | notice inChain _ =>
    rw [inChain]
    exact lasts_markEscalated c t.id

theorem lasts_decide {id : String} {ids left : Ids} (h : (c.decide id v).Returns ids o left) :
    c.Lasts (· = id) o.chain := by
  obtain ⟨t, hfound, hdecides⟩ := decide_returns h
  have hid : t.id = id := by simpa using List.find?_some hfound
  rw [← hid]
  exact hdecides.lasts

theorem lasts_escalate {status : Status} {e : Escalation} {time : Stamp} {ids left : Ids}
    (h : (c.escalate status e time).Returns ids o left) : c.Lasts (· = e.record) o.chain := by
  have hmarked := lasts_markEscalated c e.record
  unfold escalate at h
  dsimp only at h
  split at h
  · exact hmarked.trans (lasts_decide h)
  · simp only [Work.pure_returns_iff] at h
    rw [← h.1]
    exact hmarked

end Chain
end Formwork
