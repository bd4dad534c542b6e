import Formwork.Proofs.Workflow.Conflict
/-!
# A store that many share

Clients read the state of a submission from a store and hand in requests on what they read, in any
order. A request is carried out on what is stored by then, for the version that its client read, and
what it makes is stored. So nothing is carried out on a state but what was asked for on that very
state, and nothing that was carried out is overwritten unread.
-/
namespace Formwork

namespace WorkflowRequest

variable {r : WorkflowRequest} {s : SubmissionState} {op : Operation} {t : Transition}
  {ids left : Ids} {version : Int}

/-- The request as a store carries it out: on what is stored, for the version that was read. -/
def onStored (r : WorkflowRequest) (stored read : SubmissionState) : WorkflowRequest :=
  { r with submission := { r.submission with state := some stored },
           expectedVersion := some read.version }

theorem version_eq_of_checkVersion (h : r.checkVersion s = .ok ())
    (read : r.expectedVersion = some version) : version = s.version := by
  unfold checkVersion at h
  rw [read] at h
  by_contra changed
  simp [changed] at h

theorem version_eq_of_perform (h : (r.perform op).Returns ids t left)
    (onState : r.submission.state = some s) (read : r.expectedVersion = some version) :
    version = s.version := by
  have hstate : r.requireState = .ok s := requireState_of onState
  cases op with
  | execute actionId =>
    simp only [perform, execute, Work.bind_returns_iff, Work.lift_returns_iff] at h
    obtain ⟨_, _, ⟨hresolved, -⟩, -⟩ := h
    simp only [resolve, Work.except_bind_eq_ok_iff, hstate, Except.ok.injEq] at hresolved
    obtain ⟨_, rfl, _, hversion, -⟩ := hresolved
    exact version_eq_of_checkVersion hversion read
  | decide ballot =>
    simp only [perform, decide, Work.bind_returns_iff, Work.lift_returns_iff] at h
    obtain ⟨_, _, -, _, _, -, _, _, -, _, _, -, _, _, hprocessed, -⟩ := h
    obtain ⟨_, _, htarget, -⟩ := ApprovalRequest.process_returns hprocessed
    by_contra changed
    -- The engine of approvals looks at the version before it looks for the record.
    rw [ApprovalRequest.target_of_stale onState read changed] at htarget
    cases htarget
  | terminate status reason =>
    simp only [perform, terminate, Work.bind_returns_iff, Work.lift_returns_iff, hstate] at h
    obtain ⟨_, _, -, h⟩ := h
    split at h
    · simp [Work.bind_returns_iff] at h
    · simp only [Work.bind_returns_iff, Work.lift_returns_iff, Except.ok.injEq] at h
      obtain ⟨_, _, ⟨rfl, -⟩, _, _, ⟨hversion, -⟩, -⟩ := h
      exact version_eq_of_checkVersion hversion read
  | escalate escalations =>
    simp only [perform, escalate, Work.bind_returns_iff, Work.lift_returns_iff, hstate,
      Except.ok.injEq] at h
    obtain ⟨_, _, ⟨rfl, -⟩, _, _, ⟨hversion, -⟩, -⟩ := h
    exact version_eq_of_checkVersion hversion read

end WorkflowRequest

/-! ## Exchanges -/

/-- A request that a client hands in on what it read, and what is stored by then. -/
structure Exchange (Client : Type) where
  client : Client
  request : WorkflowRequest
  op : Operation
  ids : Ids
  read : SubmissionState
  before : SubmissionState

namespace Exchange

variable {Client : Type} {x : Exchange Client} {t : Transition} {s u v : SubmissionState}
  {log log' : List (Exchange Client)}

def answer (x : Exchange Client) : Except Failure Transition :=
  (((x.request.onStored x.before x.read).perform x.op).outcome x.ids).1

def after (x : Exchange Client) : SubmissionState :=
  match x.answer with
  | .ok t => t.state
  | .error _ => x.before

def isCarriedOut (x : Exchange Client) : Bool := x.answer.isOk

theorem isCarriedOut_iff : x.isCarriedOut = true ↔ ∃ t, x.answer = .ok t := by
  unfold isCarriedOut
  cases x.answer <;> simp [Except.isOk, Except.toBool]

theorem after_of_ok (h : x.answer = .ok t) : x.after = t.state := by
  unfold after
  rw [h]

theorem after_of_error {f : Failure} (h : x.answer = .error f) : x.after = x.before := by
  unfold after
  rw [h]

theorem answer_returns (h : x.answer = .ok t) : ∃ left,
    ((x.request.onStored x.before x.read).perform x.op).Returns x.ids t left :=
  ⟨_, Prod.ext h rfl⟩

/-- What is carried out was asked for on the version that is stored, and makes the next one. -/
theorem version_of_ok (h : x.answer = .ok t) :
    x.read.version = x.before.version ∧ x.after.version = x.before.version + 1 := by
  obtain ⟨left, hreturned⟩ := answer_returns h
  refine ⟨WorkflowRequest.version_eq_of_perform hreturned rfl rfl, ?_⟩
  obtain ⟨made, hleads, he⟩ := WorkflowRequest.perform_returns hreturned rfl
  rw [after_of_ok h, he, SubmissionState.version_bump, hleads.version]

/-- The exchanges lead from what is stored before them to what is stored after them. -/
def Joined (s : SubmissionState) : List (Exchange Client) → SubmissionState → Prop
  | [], u => s = u
  | x :: rest, u => x.before = s ∧ Joined x.after rest u

theorem Joined.append (h : Joined s log u) (h' : Joined u log' v) : Joined s (log ++ log') v := by
  induction log generalizing s with
  | nil =>
    change s = u at h
    subst h
    exact h'
  | cons x rest ih => exact ⟨h.1, ih h.2⟩

end Exchange

/-! ## The store -/

inductive ClientAct (Client : Type) where
  | read (client : Client)
  | submit (client : Client) (request : WorkflowRequest) (op : Operation) (ids : Ids)

/-- What is stored, what each client has read of it last, and the requests so far. -/
structure Store (Client : Type) where
  state : SubmissionState
  seen : Client → Option SubmissionState := fun _ => none
  log : List (Exchange Client) := []

namespace Store

variable {Client : Type} {s : SubmissionState} {store : Store Client} {x : Exchange Client}
  {t : Transition}

def exchanged (store : Store Client) (x : Exchange Client) : Store Client :=
  { store with state := x.after, log := store.log ++ [x] }

/-- A client that has read nothing has no version to hand in. -/
def act [DecidableEq Client] (store : Store Client) : ClientAct Client → Store Client
  | .read client =>
    { store with seen := fun c => if c = client then some store.state else store.seen c }
  | .submit client request op ids =>
    match store.seen client with
    | none => store
    | some read => store.exchanged ⟨client, request, op, ids, read, store.state⟩

def run [DecidableEq Client] (store : Store Client) (acts : List (ClientAct Client)) :
    Store Client :=
  acts.foldl act store

def carriedOut (store : Store Client) : List (Exchange Client) := store.log.filter (·.isCarriedOut)

/-- What a client has read is stored still, or is of an earlier version; and what was carried out was
asked for on what was stored, which by now is of an earlier version. -/
structure Current (s : SubmissionState) (store : Store Client) : Prop where
  seen : ∀ client read, store.seen client = some read →
    read = store.state ∨ read.version < store.state.version
  joined : Exchange.Joined s store.log store.state
  read : ∀ x ∈ store.carriedOut, x.read = x.before ∧ x.read.version < store.state.version
  apart : (store.carriedOut.map (·.read.version)).Pairwise (· < ·)
  counted : store.state.version = s.version + store.carriedOut.length

theorem current_opened (s : SubmissionState) : Current s ({ state := s } : Store Client) where
  seen _ _ h := by cases h
  joined := rfl
  read _ h := absurd h List.not_mem_nil
  apart := .nil
  counted := by simp [carriedOut]

theorem Current.read_act [DecidableEq Client] (h : Current s store) (client : Client) :
    Current s (store.act (.read client)) where
  seen c read hseen := by
    simp only [act] at hseen
    split at hseen
    · exact .inl (Option.some.inj hseen).symm
    · exact h.seen c read hseen
  joined := h.joined
  read := h.read
  apart := h.apart
  counted := h.counted

theorem carriedOut_exchanged : (store.exchanged x).carriedOut =
    store.carriedOut ++ if x.isCarriedOut then [x] else [] := by
  unfold carriedOut exchanged
  rw [List.filter_append, List.filter_singleton, Bool.cond_eq_ite]

theorem Current.joined_exchanged (h : Current s store) (here : x.before = store.state) :
    Exchange.Joined s (store.exchanged x).log (store.exchanged x).state :=
  h.joined.append ⟨here, rfl⟩

theorem Current.exchanged_of_error {f : Failure} (h : Current s store)
    (here : x.before = store.state) (failed : x.answer = .error f) :
    Current s (store.exchanged x) := by
  have hstate : (store.exchanged x).state = store.state := (Exchange.after_of_error failed).trans here
  have hdone : (store.exchanged x).carriedOut = store.carriedOut := by
    have hnot : x.isCarriedOut = false := by
      unfold Exchange.isCarriedOut
      rw [failed]
      rfl
    rw [carriedOut_exchanged, hnot]
    exact List.append_nil _
  refine ⟨?_, h.joined_exchanged here, ?_, ?_, ?_⟩
  · rw [hstate]
    exact h.seen
  · rw [hstate, hdone]
    exact h.read
  · rw [hdone]
    exact h.apart
  · rw [hstate, hdone]
    exact h.counted

theorem Current.exchanged_of_ok (h : Current s store) (here : x.before = store.state)
    (seen : store.seen x.client = some x.read) (succeeded : x.answer = .ok t) :
    Current s (store.exchanged x) := by
  obtain ⟨hasked, hnext⟩ := Exchange.version_of_ok succeeded
  rw [here] at hasked hnext
  have hstate : (store.exchanged x).state = x.after := rfl
  have hdone : (store.exchanged x).carriedOut = store.carriedOut ++ [x] := by
    rw [carriedOut_exchanged, Exchange.isCarriedOut_iff.mpr ⟨t, succeeded⟩]
    rfl
  -- A version that was read before the stored one cannot be the one that is stored.
  have hread : x.read = store.state := by
    rcases h.seen x.client x.read seen with hsame | hearlier
    · exact hsame
    · omega
  refine ⟨?_, h.joined_exchanged here, ?_, ?_, ?_⟩
  · intro client read hseen
    right
    rw [hstate, hnext]
    rcases h.seen client read hseen with rfl | hearlier
    · omega
    · omega
  · intro y hy
    rw [hdone, List.mem_append, List.mem_singleton] at hy
    rw [hstate, hnext]
    rcases hy with hy | rfl
    · have hearlier := (h.read y hy).2
      exact ⟨(h.read y hy).1, by omega⟩
    · exact ⟨hread.trans here.symm, by omega⟩
  · rw [hdone, List.map_append, List.pairwise_append]
    refine ⟨h.apart, List.pairwise_singleton _ _, ?_⟩
    intro version hversion last hlast
    obtain ⟨y, hy, rfl⟩ := List.mem_map.mp hversion
    rw [List.map_singleton, List.mem_singleton] at hlast
    rw [hlast, hasked]
    exact (h.read y hy).2
  · rw [hstate, hnext, hdone, h.counted, List.length_append, List.length_singleton]
    push_cast
    omega

theorem Current.act [DecidableEq Client] (h : Current s store) (a : ClientAct Client) :
    Current s (store.act a) := by
  cases a with
  | read client => exact h.read_act client
  | submit client request op ids =>
    simp only [Store.act]
    cases hseen : store.seen client with
    | none => exact h
    | some read =>
      let x : Exchange Client := ⟨client, request, op, ids, read, store.state⟩
      show Current s (store.exchanged x)
      cases hanswer : x.answer with
      | error f => exact h.exchanged_of_error rfl hanswer
      | ok t => exact h.exchanged_of_ok rfl hseen hanswer

theorem Current.run [DecidableEq Client] (h : Current s store) (acts : List (ClientAct Client)) :
    Current s (store.run acts) := by
  induction acts generalizing store with
  | nil => exact h
  | cons a rest ih => exact ih (h.act a)

/-- Whatever clients read and hand in, and in whatever order: the requests lead one after another
from the state that was stored first to the one that is stored last; one that fails changes nothing;
one that is carried out makes the next version of the very state that its client read; and no two of
these were made on the same version. -/
theorem loses_no_update [DecidableEq Client] (s : SubmissionState)
    (acts : List (ClientAct Client)) :
    let store := run { state := s } acts
    Exchange.Joined s store.log store.state ∧
    (∀ x ∈ store.log, ∀ f, x.answer = .error f → x.after = x.before) ∧
    (∀ x ∈ store.log, ∀ t, x.answer = .ok t → x.after = t.state ∧
      x.after.version = x.before.version + 1 ∧ x.read = x.before) ∧
    (store.carriedOut.map (·.read.version)).Nodup ∧
    store.state.version = s.version + store.carriedOut.length := by
  intro store
  have hcurrent : Current s store := (current_opened s).run acts
  refine ⟨hcurrent.joined, fun x _ f => Exchange.after_of_error, ?_, ?_, hcurrent.counted⟩
  · intro x hx t ht
    have hdone : x ∈ store.carriedOut :=
      List.mem_filter.mpr ⟨hx, Exchange.isCarriedOut_iff.mpr ⟨t, ht⟩⟩
    exact ⟨Exchange.after_of_ok ht, (Exchange.version_of_ok ht).2, (hcurrent.read x hdone).1⟩
  · exact hcurrent.apart.imp fun hlt => hlt.ne

/-- Ann and Bob both read the review before they approve it, and only the first approval counts. -/
example : ((Release.surroundings.start (Release.submission none)).answer? {}).map (fun t =>
    let store : Store String := run { state := t.state }
      [.read "ann", .read "bob",
        .submit "ann" (Release.request t.state) (Release.approval "ann") {},
        .submit "bob" (Release.request t.state) (Release.approval "bob") {}]
    (store.log.length, store.carriedOut.map (·.client), store.state.step)) =
    some (2, ["ann"], "work") := by cbv

end Store
end Formwork
