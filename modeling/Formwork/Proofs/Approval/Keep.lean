import Formwork.Proofs.Approval.Decide
/-!
# What a move leaves of a chain

No move takes a record away or gives it another place. A record that is approved after a move was so
before it, except for the one that the move decides.
-/
namespace Formwork.Chain

open Calendar

variable {granted : ApprovalRecord → Prop} {c c' : Chain} {t : ApprovalRecord}

/-- All records keep their places, and those approved were so before, or are granted. -/
structure Keeps (granted : ApprovalRecord → Prop) (c c' : Chain) : Prop where
  seats : ∀ r ∈ c, ∃ s ∈ c', r.SameSeat s
  approved : ∀ s ∈ c', s.status = .approved → s ∈ c ∨ granted s

theorem Keeps.refl (granted : ApprovalRecord → Prop) (c : Chain) : Keeps granted c c where
  seats r hr := ⟨r, hr, .refl r⟩
  approved _ hs _ := .inl hs

theorem Keeps.trans {c'' : Chain} (h : Keeps granted c c') (h' : Keeps granted c' c'') :
    Keeps granted c c'' where
  seats r hr := by
    obtain ⟨s, hs, hrs⟩ := h.seats r hr
    obtain ⟨s', hs', hss⟩ := h'.seats s hs
    exact ⟨s', hs', hrs.trans hss⟩
  approved s hs hsa := by
    rcases h'.approved s hs hsa with hs | hg
    · exact h.approved s hs hsa
    · exact .inr hg

theorem Keeps.mono {granted' : ApprovalRecord → Prop} (h : Keeps granted c c')
    (hg : ∀ r, granted r → granted' r) : Keeps granted' c c' where
  seats := h.seats
  approved s hs hsa := (h.approved s hs hsa).imp_right (hg s)

theorem Keeps.map {f : ApprovalRecord → ApprovalRecord}
    (hseat : ∀ r : ApprovalRecord, r.SameSeat (f r))
    (hf : ∀ r ∈ c, (f r).status = .approved → f r = r) : Keeps granted c (c.map f) where
  seats r hr := ⟨f r, List.mem_map.mpr ⟨r, hr, rfl⟩, hseat r⟩
  approved s hs hsa := by
    obtain ⟨r, hr, rfl⟩ := List.mem_map.mp hs
    rw [hf r hr hsa]
    exact .inl hr

/-- Records in the place of one that passes a test keep the chain, if one of them has its seat. -/
theorem Keeps.replaceFirst {test : ApprovalRecord → Bool} {f : ApprovalRecord → Chain}
    (hseat : ∀ r ∈ c, test r = true → ∃ s ∈ f r, r.SameSeat s)
    (hf : ∀ r ∈ c, test r = true → ∀ s ∈ f r, s.status = .approved → granted s) :
    Keeps granted c (c.replaceFirst test f) := by
  induction c with
  | nil => exact .refl granted []
  | cons r rest ih =>
    by_cases hr : test r = true
    · have he : Chain.replaceFirst test f (r :: rest) = f r ++ rest := by
        simp [Chain.replaceFirst, hr]
      rw [he]
      constructor
      case seats =>
        intro s hs
        rcases List.mem_cons.mp hs with rfl | hs
        · obtain ⟨s', hs', hss⟩ := hseat s (by simp) hr
          exact ⟨s', List.mem_append_left _ hs', hss⟩
        · exact ⟨s, List.mem_append_right _ hs, .refl s⟩
      case approved =>
        intro s hs hsa
        rcases List.mem_append.mp hs with hs | hs
        · exact .inr (hf r (by simp) hr s hs hsa)
        · exact .inl (List.mem_cons_of_mem _ hs)
    · have he : Chain.replaceFirst test f (r :: rest) = r :: Chain.replaceFirst test f rest := by
        simp [Chain.replaceFirst, hr]
      have hrest := ih (fun s hs => hseat s (List.mem_cons_of_mem _ hs))
        (fun s hs => hf s (List.mem_cons_of_mem _ hs))
      rw [he]
      constructor
      case seats =>
        intro s hs
        rcases List.mem_cons.mp hs with rfl | hs
        · exact ⟨s, by simp, .refl s⟩
        · obtain ⟨s', hs', hss⟩ := hrest.seats s hs
          exact ⟨s', List.mem_cons_of_mem _ hs', hss⟩
      case approved =>
        intro s hs hsa
        rcases List.mem_cons.mp hs with rfl | hs
        · exact .inl (by simp)
        · exact (hrest.approved s hs hsa).imp_left (List.mem_cons_of_mem _)

/-! ## The parts of a move -/

theorem keeps_write (h : c.Distinct) (ht : t ∈ c) (status : ApprovalStatus) (v : Verdict) :
    Keeps (fun r => status = .approved ∧ r = t.decideAs .approved v) c (c.write t.id status v) := by
  apply Keeps.replaceFirst
  · intro r _ _
    exact ⟨_, List.mem_singleton.mpr rfl, r.sameSeat_decideAs status v⟩
  · intro r hr hid s hs hsa
    rw [h.eq_of_id hr ht (by simpa using hid), List.mem_singleton] at hs
    subst hs
    have hstatus : status = .approved := hsa
    exact ⟨hstatus, by rw [hstatus]⟩

theorem keeps_openFirst (test : ApprovalRecord → Bool) (time : Stamp) :
    Keeps granted c (c.openFirst test time) := by
  unfold openFirst
  split
  · exact .refl granted c
  · apply Keeps.replaceFirst
    · intro r _ _
      exact ⟨_, List.mem_singleton.mpr rfl, r.sameSeat_request time⟩
    · intro r _ _ s hs hsa
      rw [List.mem_singleton.mp hs] at hsa
      simp [ApprovalRecord.request] at hsa

theorem keeps_openAll (test : ApprovalRecord → Bool) (time : Stamp) :
    Keeps granted c (c.openAll test time) := by
  apply Keeps.map fun r => (r.sameSeat_request time).ite _
  intro r _ hra
  split at hra
  · simp [ApprovalRecord.request] at hra
  · rename_i hr
    rw [if_neg hr]

theorem keeps_settle (target : ApprovalRecord) (time : Stamp) :
    Keeps granted c (c.settle target time) := by
  rw [settle_eq_map]
  apply Keeps.map fun r => r.sameSeat_superseded target time
  intro r _ hra
  unfold ApprovalRecord.superseded at hra ⊢
  split at hra
  · simp at hra
  · rename_i hr
    rw [if_neg hr]

theorem keeps_advance (target : ApprovalRecord) (time : Stamp) :
    Keeps granted c (c.advance target time).1 := by
  unfold advance
  split
  · exact keeps_settle target time
  · dsimp only
    split
    · exact keeps_openFirst _ time
    · exact .refl granted c
  · exact .refl granted c

theorem keeps_openNext? {target : ApprovalRecord} {time : Stamp}
    (h : c.openNext? target time = some c') : Keeps granted c c' := by
  unfold openNext? at h
  dsimp only at h
  split at h
  · simp at h
  · simp only [Option.some.injEq] at h
    rw [← h]
    split
    · exact keeps_openFirst _ time
    · exact keeps_openAll _ time

theorem keeps_mark (h : c.Distinct) (ht : t ∈ c) (hp : t.status = .pending) :
    Keeps granted c (c.markEscalated t.id) := by
  rw [markEscalated_eq_map]
  apply Keeps.map
  · intro r
    exact (r.sameSeat_marked).ite _
  · intro r hr hra
    split at hra
    · rename_i hid
      rw [h.eq_of_id hr ht hid] at hra
      exact absurd (hp.symm.trans hra) (by simp)
    · rename_i hid
      rw [if_neg hid]

/-! ## Decisions -/

theorem keeps_approve (h : c.Distinct) (ht : t ∈ c) (v : Verdict) :
    Keeps (fun r => r = t.decideAs .approved v) c (c.approve t v).chain := by
  have hwritten : Keeps (fun r => r = t.decideAs .approved v) c (c.write t.id .approved v) :=
    (keeps_write h ht .approved v).mono fun r hr => hr.2
  have hadvanced := hwritten.trans (keeps_advance t v.time)
  unfold approve
  dsimp only
  split
  · split
    · rename_i hnext
      exact hadvanced.trans (keeps_openNext? hnext)
    · exact hadvanced
  · exact hadvanced

theorem keeps_reject (h : c.Distinct) (ht : t ∈ c) (v : Verdict) :
    Keeps granted c (c.reject t v).chain := by
  have hwritten : Keeps granted c (c.write t.id .rejected v) :=
    (keeps_write h ht .rejected v).mono fun r hr => by simp at hr
  rw [reject_eq_map]
  apply hwritten.trans
  apply Keeps.map fun r => r.sameSeat_dropped t
  intro r _ hra
  unfold ApprovalRecord.dropped at hra ⊢
  split at hra
  · simp at hra
  · rename_i hr
    rw [if_neg hr]

theorem keeps_handOver (target : ApprovalRecord) (id delegate : String) (v : Verdict) :
    Keeps granted c (c.handOver target id delegate v).chain := by
  apply Keeps.replaceFirst
  · intro r _ _
    exact ⟨_, List.mem_cons_self, r.sameSeat_handedTo delegate v⟩
  · intro r _ _ s hs hsa
    simp only [List.mem_cons, List.not_mem_nil, or_false] at hs
    rcases hs with rfl | rfl
    · simp [ApprovalRecord.decideAs] at hsa
    · simp [ApprovalRecord.replacement] at hsa

theorem Decides.keeps {v : Verdict} {o : ApprovalOutcome} (hd : c.Decides t v o) (h : c.Distinct)
    (ht : t ∈ c) :
    Keeps (fun r => v.decision = .approve ∧ r = t.decideAs .approved v) c o.chain := by
  cases hd with
  | approve hv => exact (keeps_approve h ht v).mono fun r hr => ⟨hv, hr⟩
  | reject hv => exact keeps_reject h ht v
  | handOver id hv given => exact keeps_handOver t id _ v

end Formwork.Chain
