import Formwork.Proofs.Approval.Refused
/-!
# Approvals side by side

Where everybody at a level is asked, it does not matter who approves first. As long as somebody else
is asked, an approval is written into its record and nothing more; the last one clears the level, and
what it opens depends on the level and the time only. So two approvers who have a record each leave
the same chain in either order.
-/
namespace Formwork

open Calendar

/-- The request is carried out on every submission with a chain and a status, and the outcome is as
said. -/
def ApprovalRequest.Succeeds (request : ApprovalRequest) (c : Chain) (status : Status)
    (p : ApprovalOutcome → Prop) : Prop :=
  ∀ (submission : Submission) (state : SubmissionState), submission.state = some state →
    state.chain = c → state.status = status → ∀ ids, ∃ o left,
      ({ request with submission := submission }).process.Returns ids o left ∧ p o

/-- Someone approves, whichever version was read, and can decide one record only. -/
structure ApprovalRequest.ApprovesOnly (request : ApprovalRequest) (c : Chain)
    (r : ApprovalRecord) : Prop where
  approves : request.decision = .approve
  anyVersion : request.expectedVersion = none
  one : (c.actionable.filter fun s => s.admits request.approver request.roles) = [r]

namespace Chain

variable {c c' : Chain} {r s t : ApprovalRecord} {v w : Verdict}

/-! ## Who is asked -/

/-- The pending records at the level where the latest round stands. -/
def asked (c : Chain) : Chain := lowest (c.latest.filter (·.isPending))

theorem mem_front_iff (h : ∀ r ∈ c.front, r.kind ≠ .sequential) : r ∈ c.front ↔ r ∈ c := by
  refine ⟨mem_of_mem_front, fun hr => ?_⟩
  unfold front at h ⊢
  rw [← mem_byPosition] at hr
  cases hb : c.byPosition with
  | nil =>
    rw [hb] at hr
    cases hr
  | cons first rest =>
    simp only [hb] at h hr ⊢
    split
    · rename_i hkind
      rw [if_pos hkind] at h
      exact absurd hkind (h first (List.mem_singleton_self first))
    · exact hr

theorem latest_map {f : ApprovalRecord → ApprovalRecord} (hf : ∀ r, (f r).round = r.round) :
    latest (c.map f) = c.latest.map f := by
  have hrounds : (c.map f).map (·.round) = c.map (·.round) := by
    rw [List.map_map]
    exact List.map_congr_left fun r _ => hf r
  unfold latest
  rw [hrounds]
  cases (c.map (·.round)).max? with
  | none => rfl
  | some round => simp [ofRound, List.filter_map, Function.comp_def, hf]

theorem lowest_eq_filter (hs : s ∈ c) (hle : ∀ r ∈ c, s.level ≤ r.level) :
    c.lowest = c.filter fun r => r.level == s.level := by
  have hlevel : (c.map (·.level)).min? = some s.level := by
    rw [List.min?_eq_some_iff]
    refine ⟨List.mem_map_of_mem hs, ?_⟩
    intro n hn
    obtain ⟨r, hr, rfl⟩ := List.mem_map.mp hn
    exact hle r hr
  unfold lowest
  rw [hlevel]

/-- If a record of the lowest level is left, that level is the lowest one of what is left. -/
theorem lowest_filter {test : ApprovalRecord → Bool} (hs : s ∈ c.lowest) (htest : test s = true) :
    lowest (c.filter test) = c.lowest.filter test := by
  obtain ⟨hsc, hle⟩ := mem_lowest.mp hs
  have hleft : s ∈ c.filter test := List.mem_filter.mpr ⟨hsc, htest⟩
  rw [lowest_eq_filter hsc hle, lowest_eq_filter hleft fun r hr => hle r (List.mem_filter.mp hr).1,
    List.filter_filter, List.filter_filter]
  exact List.filter_congr fun r _ => Bool.and_comm _ _

theorem pending_map_approved (c : Chain) (id : String) (v : Verdict) :
    (c.map fun r => if r.id = id then r.decideAs .approved v else r).filter (·.isPending) =
      (c.filter (·.isPending)).filter fun r => r.id != id := by
  induction c with
  | nil => rfl
  | cons r rest ih =>
    have hdecided : (r.decideAs .approved v).isPending = false := rfl
    by_cases hid : r.id = id
    · cases hp : r.isPending <;> simp [hid, hp, hdecided, ih]
    · cases hp : r.isPending <;> simp [hid, hp, ih]

/-- An approval takes its record from those that are asked, and leaves the others. -/
theorem asked_write (h : c.Distinct) (ht : t ∈ c) (hs : s ∈ c.asked) (hne : s.id ≠ t.id) :
    (c.write t.id .approved v).asked = c.asked.filter fun r => r.id != t.id := by
  unfold asked at hs ⊢
  rw [write_eq_map h ht, latest_map (fun r => ((r.sameSeat_decideAs .approved v).ite _).round),
    pending_map_approved, lowest_filter hs (by simpa using hne)]

section Parallel

variable (h : c.Distinct) (parallel : ∀ r ∈ c.actionable, r.kind = .parallel)

include parallel

theorem mem_actionable_iff : r ∈ c.actionable ↔ r ∈ c.asked :=
  mem_front_iff fun r hr => by simp [parallel r hr]

theorem isBeside_of_mem_actionable (hs : s ∈ c.actionable) (ht : t ∈ c.actionable) :
    s.isBeside t = true := by
  rw [mem_actionable_iff parallel] at hs ht
  obtain ⟨hsl, hsle⟩ := mem_lowest.mp hs
  obtain ⟨htl, htle⟩ := mem_lowest.mp ht
  obtain ⟨hsc, hsr⟩ := mem_latest.mp (List.mem_filter.mp hsl).1
  obtain ⟨htc, htr⟩ := mem_latest.mp (List.mem_filter.mp htl).1
  have hround : s.round = t.round := Int.le_antisymm (htr s hsc) (hsr t htc)
  have hlevel : s.level = t.level := Int.le_antisymm (hsle t htl) (htle s hsl)
  simp [ApprovalRecord.isBeside, hround, hlevel]

include h

theorem mem_actionable_write (ht : t ∈ c.actionable) (hs : s ∈ c.actionable) (hne : s.id ≠ t.id) :
    r ∈ (c.write t.id .approved v).actionable ↔ r ∈ c.actionable ∧ r.id ≠ t.id := by
  have hasked : (c.write t.id .approved v).asked = c.asked.filter fun r => r.id != t.id :=
    asked_write h (pending_of_mem_actionable ht).1 ((mem_actionable_iff parallel).mp hs) hne
  have hmem : ∀ a : ApprovalRecord,
      a ∈ (c.write t.id .approved v).asked ↔ a ∈ c.actionable ∧ a.id ≠ t.id := by
    intro a
    rw [hasked, List.mem_filter, mem_actionable_iff parallel, bne_iff_ne]
  have hkinds : ∀ a ∈ (c.write t.id .approved v).actionable, a.kind ≠ .sequential := by
    intro a ha
    simp [parallel a ((hmem a).mp (mem_of_mem_front ha)).1]
  exact (mem_front_iff hkinds).trans (hmem r)

theorem approve_of_others (ht : t ∈ c.actionable) (hs : s ∈ c.actionable) (hne : s.id ≠ t.id) :
    c.approve t v = (c.write t.id .approved v).pendingOutcome t.id [] := by
  have hleft : s ∈ (c.write t.id .approved v).actionable :=
    (mem_actionable_write h parallel ht hs hne).mpr ⟨hs, hne⟩
  obtain ⟨hsc, hsp⟩ := pending_of_mem_actionable hleft
  have hopen : (c.write t.id .approved v).any (fun r => r.isBeside t && r.status.isOpen) = true := by
    rw [List.any_eq_true]
    refine ⟨s, hsc, ?_⟩
    simp [isBeside_of_mem_actionable parallel hs ht, hsp, ApprovalStatus.isOpen]
  simp [approve, advance, parallel t ht, hopen]

end Parallel

/-! ## What two approvals leave -/

theorem Distinct.write (h : c.Distinct) (ht : t ∈ c) (status : ApprovalStatus) (v : Verdict) :
    (c.write t.id status v).Distinct := by
  rw [write_eq_map h ht]
  exact h.map fun r => ((r.sameSeat_decideAs status v).ite _).id

theorem write_comm (h : c.Distinct) (ht : t ∈ c) (hs : s ∈ c) (hne : s.id ≠ t.id)
    (status : ApprovalStatus) :
    (c.write t.id status v).write s.id status w = (c.write s.id status w).write t.id status v := by
  have hst : s ∈ c.write t.id status v := (mem_write h ht).mpr (.inl ⟨hs, fun he => hne (he ▸ rfl)⟩)
  have hts : t ∈ c.write s.id status w := (mem_write h hs).mpr (.inl ⟨ht, fun he => hne (he ▸ rfl)⟩)
  rw [write_eq_map (h.write ht status v) hst, write_eq_map (h.write hs status w) hts,
    write_eq_map h ht, write_eq_map h hs, List.map_map, List.map_map]
  apply List.map_congr_left
  intro r _
  by_cases hrt : r.id = t.id
  · simp [hrt, hne.symm, ApprovalRecord.decideAs]
  · by_cases hrs : r.id = s.id <;> simp [hrt, hrs, hne, ApprovalRecord.decideAs]

theorem approve_congr (hkt : t.kind = .parallel) (hks : s.kind = .parallel)
    (hbeside : s.isBeside t = true) (htime : w.time = v.time)
    (hwritten : c.write t.id .approved v = c'.write s.id .approved w) :
    (c.approve t v).chain = (c'.approve s w).chain ∧
      (c.approve t v).status = (c'.approve s w).status := by
  simp only [ApprovalRecord.isBeside, Bool.and_eq_true, beq_iff_eq] at hbeside
  have hbehind : ∀ r : ApprovalRecord, r.waitsBehind s = r.waitsBehind t := by
    simp [ApprovalRecord.waitsBehind, hbeside]
  have hopenNext : ∀ l : Chain, l.openNext? s w.time = l.openNext? t v.time := by
    simp [openNext?, hbehind, htime]
  unfold approve advance
  simp only [hkt, hks, hwritten, hopenNext, ApprovalRecord.isBeside, hbeside]
  split
  · split <;> exact ⟨rfl, rfl⟩
  · exact ⟨rfl, rfl⟩

end Chain

/-! ## The requests -/

namespace ApprovalRequest

variable {request : ApprovalRequest} {c : Chain} {r : ApprovalRecord}

theorem ApprovesOnly.mem_iff (h : request.ApprovesOnly c r) {s : ApprovalRecord} :
    s ∈ c.actionable ∧ s.admits request.approver request.roles = true ↔ s = r := by
  have hmem : s ∈ (c.actionable.filter fun s => s.admits request.approver request.roles) ↔ s = r := by
    rw [h.one, List.mem_singleton]
  rwa [List.mem_filter] at hmem

theorem ApprovesOnly.mem (h : request.ApprovesOnly c r) : r ∈ c.actionable := (h.mem_iff.mpr rfl).1

theorem process_approves (request : ApprovalRequest) {state : SubmissionState}
    (distinct : state.chain.Distinct) (hstate : request.submission.state = some state)
    (hpending : state.status = .pendingApproval)
    (approves : request.decision = .approve) (anyVersion : request.expectedVersion = none)
    (hfound : state.chain.actionableBy? request.approver request.roles = some r) (ids : Ids) :
    request.process.Returns ids (state.chain.approve r request.verdict) ids := by
  have hrecord := Chain.record?_of_mem distinct (Chain.actionableBy?_eq_some hfound).1
  have hdecision : request.verdict.decision = .approve := approves
  have accepted : request.Accepted state r :=
    ⟨hstate, .of_none anyVersion, hpending, hfound, fun delegates => by simp [approves] at delegates⟩
  unfold process
  rw [accepted.target, Work.bind_returns_iff]
  refine ⟨_, ids, Work.lift_returns_iff.mpr ⟨rfl, rfl⟩, ?_⟩
  simp [Chain.decide, hrecord, hdecision]

theorem succeeds (distinct : c.Distinct) (approves : request.decision = .approve)
    (anyVersion : request.expectedVersion = none) (hr : r ∈ c.actionable)
    (hadmits : r.admits request.approver request.roles = true)
    (only : ∀ s ∈ c.actionable, s.admits request.approver request.roles = true → s = r)
    {p : ApprovalOutcome → Prop} (hp : p (c.approve r request.verdict)) :
    request.Succeeds c .pendingApproval p := by
  rintro submission state hstate rfl hpending ids
  have hfound : state.chain.actionableBy? request.approver request.roles = some r := by
    unfold Chain.actionableBy?
    cases hf : state.chain.actionable.find? fun r => r.admits request.approver request.roles with
    | none => exact absurd hadmits (List.find?_eq_none.mp hf r hr)
    | some s =>
      have hs : s.admits request.approver request.roles = true := by simpa using List.find?_some hf
      rw [only s (List.mem_of_find?_eq_some hf) hs]
  exact ⟨_, ids, process_approves { request with submission := submission } distinct hstate
    hpending approves anyVersion hfound ids, hp⟩

theorem ApprovesOnly.both {first second : ApprovalRequest} {r s : ApprovalRecord}
    (distinct : c.Distinct) (parallel : ∀ a ∈ c.actionable, a.kind = .parallel)
    (hr : first.ApprovesOnly c r) (hs : second.ApprovesOnly c s) (ne : r ≠ s)
    {p : ApprovalOutcome → Prop}
    (hp : p ((c.write r.id .approved first.verdict).approve s second.verdict)) :
    first.Succeeds c .pendingApproval fun o => second.Succeeds o.chain o.status p := by
  have hrc := (Chain.pending_of_mem_actionable hr.mem).1
  have hsc := (Chain.pending_of_mem_actionable hs.mem).1
  have hid : s.id ≠ r.id := fun he => ne (distinct.eq_of_id hsc hrc he).symm
  have hleft : ∀ a : ApprovalRecord, a ∈ (c.write r.id .approved first.verdict).actionable ↔
      a ∈ c.actionable ∧ a.id ≠ r.id :=
    fun a => Chain.mem_actionable_write distinct parallel hr.mem hs.mem hid
  apply succeeds distinct hr.approves hr.anyVersion hr.mem (hr.mem_iff.mpr rfl).2
    fun a ha hadmits => hr.mem_iff.mp ⟨ha, hadmits⟩
  rw [Chain.approve_of_others distinct parallel hr.mem hs.mem hid]
  exact succeeds (distinct.write hrc .approved first.verdict) hs.approves hs.anyVersion
    ((hleft s).mpr ⟨hs.mem, hid⟩) (hs.mem_iff.mpr rfl).2
    (fun a ha hadmits => hs.mem_iff.mp ⟨((hleft a).mp ha).1, hadmits⟩) hp

end ApprovalRequest

namespace Chain

/-- Two approvers of a level at which everybody is asked, who can decide a record each, leave the same
chain with the same status, whoever comes first and however the chain came about. -/
theorem parallel_approvals_commute {c : Chain} {a b : ApprovalRequest} {r s : ApprovalRecord}
    (distinct : c.Distinct) (parallel : ∀ x ∈ c.actionable, x.kind = .parallel)
    (byA : a.ApprovesOnly c r) (byB : b.ApprovesOnly c s) (ne : r ≠ s) (sameTime : a.time = b.time) :
    ∃ chain status,
      (a.Succeeds c .pendingApproval fun first =>
        b.Succeeds first.chain first.status fun o => o.chain = chain ∧ o.status = status) ∧
      (b.Succeeds c .pendingApproval fun first =>
        a.Succeeds first.chain first.status fun o => o.chain = chain ∧ o.status = status) := by
  have hrc := (pending_of_mem_actionable byA.mem).1
  have hsc := (pending_of_mem_actionable byB.mem).1
  have hid : s.id ≠ r.id := fun he => ne (distinct.eq_of_id hsc hrc he).symm
  have hsame := approve_congr (parallel r byA.mem) (parallel s byB.mem)
    (isBeside_of_mem_actionable parallel byB.mem byA.mem) sameTime.symm
    (write_comm (v := a.verdict) (w := b.verdict) distinct hrc hsc hid .approved).symm
  refine ⟨((c.write r.id .approved a.verdict).approve s b.verdict).chain,
    ((c.write r.id .approved a.verdict).approve s b.verdict).status, ?_, ?_⟩
  · exact byA.both distinct parallel byB ne ⟨rfl, rfl⟩
  · exact byB.both distinct parallel byA ne.symm hsame

end Chain

/-! Ann and the chief are asked together, and Dan after both of them. -/

namespace Panel

open Purchase (midnight)

def config : ApprovalConfig :=
  { levels := [{ kind := .parallel, approvers := ["ann"], roles := ["chief"] },
      { approvers := ["dan"] }] }

def ann : ApprovalRecord :=
  { id := "APR-000000000001", level := 0, kind := .parallel, approver := some "ann",
    requestedAt := some (.ofInstant midnight) }

def chief : ApprovalRecord :=
  { id := "APR-000000000002", level := 0, kind := .parallel, position := 1, role := some "chief",
    requestedAt := some (.ofInstant midnight) }

def dan : ApprovalRecord :=
  { id := "APR-000000000003", level := 1, kind := .sequential, approver := some "dan",
    status := .waiting }

def panel : Chain := [ann, chief, dan]

def byAnn : ApprovalRequest := { Purchase.approval panel "ann" [] with config := config }

def byCat : ApprovalRequest := { Purchase.approval panel "cat" ["chief"] with config := config }

theorem start_returns :
    (config.startChain (.ofNow midnight) 1).Returns {} panel ⟨3, 0, 0, some .approval⟩ := rfl

theorem distinct_panel : panel.Distinct := by
  unfold Chain.Distinct
  decide

theorem actionable_panel : panel.actionable = [ann, chief] := by cbv

theorem approvesOnly_ann : byAnn.ApprovesOnly panel ann := by
  refine ⟨rfl, rfl, ?_⟩
  rw [actionable_panel]
  rfl

theorem approvesOnly_cat : byCat.ApprovesOnly panel chief := by
  refine ⟨rfl, rfl, ?_⟩
  rw [actionable_panel]
  rfl

end Panel

namespace Chain

open Panel

/-- Ann and Cat, who is a chief, can approve in either order. -/
theorem parallel_approvals_commute_panel :
    (config.startChain (.ofNow Purchase.midnight) 1).Returns {} panel ⟨3, 0, 0, some .approval⟩ ∧
    byAnn.ApprovesOnly panel ann ∧ byCat.ApprovesOnly panel chief ∧
    ∃ chain status,
      (byAnn.Succeeds panel .pendingApproval fun first =>
        byCat.Succeeds first.chain first.status fun o => o.chain = chain ∧ o.status = status) ∧
      (byCat.Succeeds panel .pendingApproval fun first =>
        byAnn.Succeeds first.chain first.status fun o => o.chain = chain ∧ o.status = status) := by
  have parallel : ∀ r ∈ panel.actionable, r.kind = .parallel := by
    rw [actionable_panel]
    simp [ann, chief]
  have ne : ann ≠ chief := fun he => absurd (congrArg ApprovalRecord.id he) (by decide)
  exact ⟨start_returns, approvesOnly_ann, approvesOnly_cat,
    parallel_approvals_commute distinct_panel parallel approvesOnly_ann approvesOnly_cat ne rfl⟩

end Chain
end Formwork
