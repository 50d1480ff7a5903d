import Mathlib.Data.List.Induction
import Passage.Proofs.Session.Run

/-!
# Failed loads

A load whose extraction fails leaves nothing behind but its status line. A run is
compared with the run in which such loads never happened: the sessions differ in their
status at most, and all other operations return the same. Why an extraction fails has
no part in that.
-/

namespace Passage.Session

namespace Operation

/-- The failure of a load. -/
def failure? : Operation → Option Error
  | load _ (.error e) => some e
  | _ => none

/-- Loads and searches set the status, however they end. -/
def setsStatus : Operation → Bool
  | load _ _ | search _ => true
  | _ => false

end Operation

/-- A run less its failed loads. -/
def withoutFailedLoads (ops : List Operation) : List Operation :=
  ops.filter (·.failure?.isNone)

/-- The failure of a load since which nothing has set the status. -/
def shownFailure? (ops : List Operation) : Option Error :=
  (ops.reverse.find? Operation.setsStatus).bind Operation.failure?

def withStatus (s : Session) (status : Status) : Session := { s with status }

/-- The session with the status that shows a failure, if there is one. -/
def showingFailure (s : Session) : Option Error → Session
  | some e => s.withStatus (.failed e.statusMessage)
  | none => s

/-! ## What a status does not reach -/

theorem answer_withStatus (s : Session) (status : Status) (op : Operation) :
    (s.withStatus status).answer op = s.answer op := by
  cases op with
  | load source answer => cases answer <;> rfl
  | search query => rfl
  | next => rfl
  | prev => rfl
  | goTo index => rfl
  | setOptions options => rfl

theorem apply_withStatus_of_sets {op : Operation} (h : op.setsStatus = true) (s : Session)
    (status : Status) : (s.withStatus status).apply op = s.apply op := by
  cases op with
  | load source answer => cases answer <;> rfl
  | search query => rfl
  | _ => cases h

theorem apply_withStatus_of_keeps {op : Operation} (h : op.setsStatus = false) (s : Session)
    (status : Status) : (s.withStatus status).apply op = (s.apply op).withStatus status := by
  cases op with
  | load source answer => cases h
  | search query => cases h
  | next => rfl
  | prev => rfl
  | goTo index => rfl
  | setOptions options => rfl

/-- An earlier status is the only thing that an operation may take over from it. -/
theorem apply_withStatus (s : Session) (status : Status) (op : Operation) :
    ∃ later, (s.withStatus status).apply op = (s.apply op).withStatus later := by
  cases h : op.setsStatus with
  | true => exact ⟨(s.apply op).status, apply_withStatus_of_sets h s status⟩
  | false => exact ⟨status, apply_withStatus_of_keeps h s status⟩

theorem apply_showingFailure (s : Session) (failure : Option Error) (op : Operation) :
    (s.showingFailure failure).apply op =
      (s.apply op).showingFailure (if op.setsStatus then none else failure) := by
  cases failure with
  | none => cases op.setsStatus <;> rfl
  | some e =>
    cases h : op.setsStatus with
    | true => exact apply_withStatus_of_sets h s _
    | false => exact apply_withStatus_of_keeps h s _

/-! ## One operation more -/

theorem eq_load_of_failure? {op : Operation} {e : Error} (h : op.failure? = some e) :
    ∃ source, op = .load source (.error e) := by
  cases op with
  | load source answer =>
    cases answer with
    | error e' =>
      obtain rfl := Option.some.inj h
      exact ⟨source, rfl⟩
    | ok content => cases h
  | _ => cases h

theorem withoutFailedLoads_concat (ops : List Operation) (op : Operation) :
    withoutFailedLoads (ops ++ [op]) =
      withoutFailedLoads ops ++ if op.failure?.isNone then [op] else [] := by
  rw [withoutFailedLoads, List.filter_append, List.filter_cons, List.filter_nil]
  rfl

theorem shownFailure?_concat (ops : List Operation) (op : Operation) :
    shownFailure? (ops ++ [op]) = if op.setsStatus then op.failure? else shownFailure? ops := by
  rw [shownFailure?, List.reverse_concat, List.find?_cons]
  cases op.setsStatus <;> rfl

/-- A failure is shown by the last operation of those that set the status. -/
theorem shownFailure?_eq_some_iff {ops : List Operation} {e : Error} :
    shownFailure? ops = some e ↔ ∃ before source later,
      ops = before ++ .load source (.error e) :: later ∧ ∀ op ∈ later, op.setsStatus = false := by
  constructor
  · intro h
    obtain ⟨op, hfind, hop⟩ := Option.bind_eq_some_iff.mp h
    obtain ⟨source, rfl⟩ := eq_load_of_failure? hop
    obtain ⟨_, later, before, hops, hlater⟩ := List.find?_eq_some_iff_append.mp hfind
    refine ⟨before.reverse, source, later.reverse, ?_, ?_⟩
    · rw [← ops.reverse_reverse, hops]
      simp
    · intro op hm
      simpa using hlater op (List.mem_reverse.mp hm)
  · intro h
    obtain ⟨before, source, later, rfl, hlater⟩ := h
    have hfind : (before ++ .load source (.error e) :: later).reverse.find? Operation.setsStatus =
        some (.load source (.error e)) := by
      rw [List.find?_eq_some_iff_append]
      refine ⟨rfl, later.reverse, before.reverse, by simp, ?_⟩
      intro op hm
      rw [hlater op (List.mem_reverse.mp hm)]
      rfl
    rw [shownFailure?, hfind]
    rfl

/-! ## The two runs -/

/-- A run with failed loads ends as the run without them, but for the failure that the status shows. -/
theorem run_withoutFailedLoads (s : Session) (ops : List Operation) :
    s.run ops = (s.run (withoutFailedLoads ops)).showingFailure (shownFailure? ops) := by
  induction ops using List.reverseRecOn with
  | nil => rfl
  | append_singleton ops op ih =>
    rw [run_append, ih, withoutFailedLoads_concat, shownFailure?_concat, run_append]
    cases hf : op.failure? with
    | none =>
      -- the operation is in both runs
      refine (apply_showingFailure _ _ op).trans ?_
      cases op.setsStatus <;> rfl
    | some e =>
      obtain ⟨source, rfl⟩ := eq_load_of_failure? hf
      cases shownFailure? ops <;> rfl

/-- Failed loads are all that a record loses with them. -/
theorem record_withoutFailedLoads (s : Session) (status : Status) (ops : List Operation) :
    ((s.withStatus status).record ops).filter (·.1.failure?.isNone) =
      s.record (withoutFailedLoads ops) := by
  induction ops generalizing s status with
  | nil => rfl
  | cons op ops ih =>
    rw [record, withoutFailedLoads]
    cases hf : op.failure? with
    | none =>
      obtain ⟨later, hs⟩ := apply_withStatus s status op
      rw [List.filter_cons_of_pos (by simp [hf]), List.filter_cons_of_pos (by simp [hf]), record,
        answer_withStatus, hs, ih, ← withoutFailedLoads]
    | some e =>
      obtain ⟨source, rfl⟩ := eq_load_of_failure? hf
      rw [List.filter_cons_of_neg (by simp [hf]), List.filter_cons_of_neg (by simp [hf])]
      exact ih s (.failed e.statusMessage)

/-- Erasing the failed loads of a run changes neither the document, the results, the page and the
options that it ends with nor what any other operation returned. The status is the same unless such
a load was the last to set it; then it shows the failure of that load. Nothing else of a view
differs. -/
theorem run_ignores_failed_loads (c : Config) (ops : List Operation) :
    let s := run (ofConfig c) ops
    let t := run (ofConfig c) (withoutFailedLoads ops)
    s.document = t.document ∧ s.results = t.results ∧ s.page = t.page ∧ s.options = t.options ∧
      ((ofConfig c).record ops).filter (·.1.failure?.isNone) =
        (ofConfig c).record (withoutFailedLoads ops) ∧
      s.status = (shownFailure? ops).elim t.status (fun e => .failed e.statusMessage) ∧
      (∀ e, shownFailure? ops = some e ↔ ∃ before source later,
        ops = before ++ .load source (.error e) :: later ∧ ∀ op ∈ later, op.setsStatus = false) ∧
      s.view = { t.view with status := s.status.text } := by
  intro s t
  have hrecord := record_withoutFailedLoads (ofConfig c) (ofConfig c).status ops
  have hs : s = t.showingFailure (shownFailure? ops) := run_withoutFailedLoads (ofConfig c) ops
  rw [hs]
  cases hf : shownFailure? ops with
  | none => exact ⟨rfl, rfl, rfl, rfl, hrecord, rfl, fun e => hf ▸ shownFailure?_eq_some_iff, rfl⟩
  | some e => exact ⟨rfl, rfl, rfl, rfl, hrecord, rfl, fun e => hf ▸ shownFailure?_eq_some_iff, rfl⟩

end Passage.Session
