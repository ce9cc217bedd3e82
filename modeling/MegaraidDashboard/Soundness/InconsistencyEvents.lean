import Mathlib.Data.List.Chain
import MegaraidDashboard.Machine.Run
import MegaraidDashboard.Model.Web.ConsistencyCheck

/-! # Alternation of the inconsistency events

Requests that do not overlap record a change against the last event, so that the events alternate. Two requests
that read the same newest event record the same change twice.
-/

namespace MegaraidDashboard.Web

open Db Services

/-- The events alternate between detected and resolved, beginning with detected. -/
structure InconsistencyLogAlternates (rows : List Event) : Prop where
  first : ∀ event ∈ rows.head?, event.summary = inconsistencyDetectedSummary
  linked : rows.IsChain fun first second =>
    first.summary = inconsistencyDetectedSummary ∧ second.summary = inconsistencyResolvedSummary ∨
      first.summary = inconsistencyResolvedSummary ∧ second.summary = inconsistencyDetectedSummary

/-- At its commit a request finds the rows that it has read, and none of them later than its own. -/
def Undisturbed (run : InconsistencyRun) : InconsistencyStep → Prop
  | .commit request occurredAt =>
    match run.phase request with
    | .recording _ seen => (inconsistencyEvents run.db).length = seen ∧
        ∀ row ∈ inconsistencyEvents run.db, row.occurredAt ≤ occurredAt
    | _ => True
  | _ => True

section Rows

variable {run : InconsistencyRun} {event : DetectedEvent}

theorem inconsistencyEvents_insert (category : event.category = .consistencyCheckInconsistency) (occurredAt : ℤ)
    (operatorUsername : Option String) : ∃ row, row.summary = event.summary ∧ row.occurredAt = occurredAt ∧
      inconsistencyEvents (run.insert event occurredAt operatorUsername).db = inconsistencyEvents run.db ++ [row] := by
  refine ⟨⟨run.db.events.length + 1, occurredAt, event.severity, event.category, event.subject, event.summary,
    event.before, event.after, operatorUsername, none⟩, rfl, rfl, ?_⟩
  simp only [inconsistencyEvents, InconsistencyRun.insert, Database.insertEvent, List.filter_append, List.filter_cons,
    category, beq_self_eq_true, ↓reduceIte, List.filter_nil]

theorem inconsistencyEvents_insert_of_ne (other : event.category ≠ .consistencyCheckInconsistency) (occurredAt : ℤ)
    (operatorUsername : Option String) :
    inconsistencyEvents (run.insert event occurredAt operatorUsername).db = inconsistencyEvents run.db := by
  have dropped : (event.category == Category.consistencyCheckInconsistency) = false := beq_eq_false_iff_ne.mpr other
  simp only [inconsistencyEvents, InconsistencyRun.insert, Database.insertEvent, List.filter_append, List.filter_cons,
    dropped, Bool.false_eq_true, ↓reduceIte, List.filter_nil, List.append_nil]

/-- What a request records against the event that it has read. -/
theorem transition_eq_some {status : ConsistencyCheckStatus} {existing : Option Event}
    (made : status.transition existing = some event) : event.category = .consistencyCheckInconsistency ∧
      (event.summary = inconsistencyDetectedSummary ∧
          (∀ row ∈ existing, row.summary ≠ inconsistencyDetectedSummary) ∨
        event.summary = inconsistencyResolvedSummary ∧
          ∃ row ∈ existing, row.summary ≠ inconsistencyResolvedSummary) := by
  simp only [ConsistencyCheckStatus.transition] at made
  split_ifs at made with inconsistent known unchanged
  · obtain rfl := Option.some.inj made
    refine ⟨rfl, .inl ⟨rfl, fun row found same => known ?_⟩⟩
    rw [Option.mem_def.mp found, Option.any_some, beq_iff_eq]
    exact same
  · obtain rfl := Option.some.inj made
    refine ⟨rfl, .inr ⟨rfl, ?_⟩⟩
    cases existing with
    | none => exact (unchanged rfl).elim
    | some row => exact ⟨row, rfl, fun same => unchanged (beq_iff_eq.mpr same)⟩

/-- Every event of an alternating log is one of the two. -/
theorem InconsistencyLogAlternates.summary {rows : List Event} (log : InconsistencyLogAlternates rows) {row : Event}
    (last : row ∈ rows.getLast?) :
    row.summary = inconsistencyDetectedSummary ∨ row.summary = inconsistencyResolvedSummary := by
  cases rows using List.reverseRecOn with
  | nil => cases last
  | append_singleton earlier newest =>
    rw [List.getLast?_concat] at last
    obtain rfl := Option.some.inj last
    cases earlier using List.reverseRecOn with
    | nil => exact .inl (log.first _ rfl)
    | append_singleton older before =>
      rcases (List.isChain_append.mp log.linked).2.2 before (by rw [List.getLast?_concat]; rfl) newest rfl with
        follows | follows
      · exact .inr follows.2
      · exact .inl follows.2

/-- A change against the last event continues the alternation. -/
theorem InconsistencyLogAlternates.concat {rows : List Event} (log : InconsistencyLogAlternates rows)
    {status : ConsistencyCheckStatus} (made : status.transition rows.getLast? = some event) {row : Event}
    (summary : row.summary = event.summary) : InconsistencyLogAlternates (rows ++ [row]) := by
  have apart : inconsistencyDetectedSummary ≠ inconsistencyResolvedSummary := by decide
  obtain ⟨-, change⟩ := transition_eq_some made
  refine ⟨fun first head => ?_, List.isChain_append.mpr ⟨log.linked, List.isChain_singleton _, ?_⟩⟩
  · cases rows with
    | nil =>
      obtain rfl : row = first := Option.some.inj head
      rcases change with ⟨detected, -⟩ | ⟨-, _, found, -⟩
      · exact summary.trans detected
      · cases found
    | cons oldest rest => exact log.first first head
  · intro last found new same
    obtain rfl : row = new := Option.some.inj same
    rcases change with ⟨detected, other⟩ | ⟨resolved, before, foundBefore, other⟩
    · rcases log.summary found with old | old
      · exact (other last found old).elim
      · exact .inr ⟨old, summary.trans detected⟩
    · obtain rfl : last = before := Option.some.inj (found.symm.trans foundBefore)
      rcases log.summary found with old | old
      · exact .inl ⟨old, summary.trans resolved⟩
      · exact (other old).elim

end Rows

section Run

variable {requests : ℕ → ConsistencyCheckStatus} {run : InconsistencyRun}

/-- The rows of the category in the order of time, and what every open request has read among them. -/
structure InconsistencyRun.Tracked (requests : ℕ → ConsistencyCheckStatus) (run : InconsistencyRun) : Prop where
  alternates : InconsistencyLogAlternates (inconsistencyEvents run.db)
  sorted : (inconsistencyEvents run.db).Pairwise fun first second => first.occurredAt ≤ second.occurredAt
  pending : ∀ request event seen, run.phase request = .recording event seen →
    seen ≤ (inconsistencyEvents run.db).length ∧
      (requests request).transition (((inconsistencyEvents run.db).take seen).latest? (·.occurredAt)) = some event

theorem InconsistencyRun.Tracked.setPhase_ended (tracked : run.Tracked requests) (request : ℕ) :
    (run.setPhase request .ended).Tracked requests where
  alternates := tracked.alternates
  sorted := tracked.sorted
  pending other event seen recording := by
    simp only [InconsistencyRun.setPhase, Function.update_apply] at recording
    split_ifs at recording
    exact tracked.pending other event seen recording

theorem InconsistencyRun.Tracked.setPhase_recording (tracked : run.Tracked requests) {request : ℕ}
    {event : DetectedEvent}
    (made : (requests request).transition ((inconsistencyEvents run.db).latest? (·.occurredAt)) = some event) :
    (run.setPhase request (.recording event (inconsistencyEvents run.db).length)).Tracked requests where
  alternates := tracked.alternates
  sorted := tracked.sorted
  pending other event' seen recording := by
    simp only [InconsistencyRun.setPhase, Function.update_apply] at recording
    split_ifs at recording with same
    · subst same
      obtain ⟨rfl, rfl⟩ := InconsistencyPhase.recording.inj recording
      refine ⟨le_rfl, ?_⟩
      change (requests other).transition (((inconsistencyEvents run.db).take _).latest? _) = _
      rw [List.take_length]
      exact made
    · exact tracked.pending other event' seen recording

/-- A commit that finds the rows it has read continues the log. -/
theorem InconsistencyRun.Tracked.commit (tracked : run.Tracked requests) {request seen : ℕ} {event : DetectedEvent}
    (recording : run.phase request = .recording event seen) (current : (inconsistencyEvents run.db).length = seen)
    {occurredAt : ℤ} (newest : ∀ row ∈ inconsistencyEvents run.db, row.occurredAt ≤ occurredAt) :
    (run.insert event occurredAt none).Tracked requests := by
  obtain ⟨-, made⟩ := tracked.pending request event seen recording
  rw [← current, List.take_length, List.latest?_eq_getLast? tracked.sorted] at made
  obtain ⟨row, summary, rfl, rows⟩ := inconsistencyEvents_insert (transition_eq_some made).1 occurredAt none
  refine ⟨?_, ?_, fun other event' seen' pending => ?_⟩
  · rw [rows]
    exact tracked.alternates.concat made summary
  · rw [rows]
    refine List.pairwise_append.mpr ⟨tracked.sorted, List.pairwise_singleton _ _, fun old member new last => ?_⟩
    rw [List.mem_singleton.mp last]
    exact newest old member
  · obtain ⟨bound, read⟩ := tracked.pending other event' seen' pending
    rw [rows, List.length_append, List.take_append_of_le_length bound]
    exact ⟨bound.trans (Nat.le_add_right _ _), read⟩

theorem InconsistencyRun.Tracked.step (tracked : run.Tracked requests) {step : InconsistencyStep}
    (undisturbed : Undisturbed run step) : (run.step requests step).Tracked requests := by
  cases step with
  | read request =>
    cases phase : run.phase request with
    | arrived =>
      cases made : (requests request).transition ((inconsistencyEvents run.db).latest? (·.occurredAt)) with
      | none =>
        simp only [InconsistencyRun.step, phase, made]
        exact tracked.setPhase_ended request
      | some event =>
        simp only [InconsistencyRun.step, phase, made]
        exact tracked.setPhase_recording made
    | recording event seen =>
      simp only [InconsistencyRun.step, phase]
      exact tracked
    | ended =>
      simp only [InconsistencyRun.step, phase]
      exact tracked
  | commit request occurredAt =>
    cases phase : run.phase request with
    | recording event seen =>
      simp only [Undisturbed, phase] at undisturbed
      simp only [InconsistencyRun.step, phase]
      exact (tracked.commit phase undisturbed.1 undisturbed.2).setPhase_ended request
    | arrived =>
      simp only [InconsistencyRun.step, phase]
      exact tracked
    | ended =>
      simp only [InconsistencyRun.step, phase]
      exact tracked
  | fail request => exact tracked.setPhase_ended request
  | elsewhere event occurredAt operatorUsername other =>
    have rows := @inconsistencyEvents_insert_of_ne run event other occurredAt operatorUsername
    exact ⟨rows ▸ tracked.alternates, rows ▸ tracked.sorted, rows ▸ tracked.pending⟩

theorem InconsistencyRun.tracked_initial {db : Database} (fresh : inconsistencyEvents db = []) :
    (InconsistencyRun.initial db).Tracked requests where
  alternates := by
    change InconsistencyLogAlternates (inconsistencyEvents db)
    rw [fresh]
    exact ⟨fun _ head => (by cases head), .nil⟩
  sorted := by
    change (inconsistencyEvents db).Pairwise _
    rw [fresh]
    exact .nil
  pending _ _ _ recording := by cases recording

/-- In every run in which each recording request finds, at its commit, the rows that it has read and no later
time, the events alternate, beginning with detected. -/
theorem inconsistency_events_alternate (requests : ℕ → ConsistencyCheckStatus) {db : Database}
    (fresh : inconsistencyEvents db = []) {steps : List InconsistencyStep}
    (undisturbed : Machine.Guarded (InconsistencyRun.step requests) Undisturbed (.initial db) steps) :
    InconsistencyLogAlternates
      (inconsistencyEvents (steps.foldl (InconsistencyRun.step requests) (.initial db)).db) :=
  (undisturbed.invariant (InconsistencyRun.tracked_initial fresh) fun _ _ tracked ok => tracked.step ok).alternates

/-- A status with one inconsistency, and one with none. -/
def inconsistentStatus : ConsistencyCheckStatus := ⟨"conc", "Idle", none, none, some 1, none⟩

def consistentStatus : ConsistencyCheckStatus := ⟨"conc", "Idle", none, none, some 0, none⟩

/-- Two requests one after the other. -/
theorem inconsistency_events_alternate_resolved :
    InconsistencyLogAlternates (inconsistencyEvents
      (([.read 0, .commit 0 10, .read 1, .commit 1 20] : List InconsistencyStep).foldl
        (InconsistencyRun.step fun request => if request = 0 then inconsistentStatus else consistentStatus)
        (.initial .empty)).db) := by
  apply inconsistency_events_alternate _ rfl
  refine ⟨trivial, ⟨rfl, ?_⟩, trivial, ⟨rfl, ?_⟩, trivial⟩
  · decide
  · decide

/-- Two requests read the empty log before either one inserts. -/
theorem not_inconsistency_events_alternate :
    ¬InconsistencyLogAlternates (inconsistencyEvents
      (([.read 0, .read 1, .commit 0 10, .commit 1 20] : List InconsistencyStep).foldl
        (InconsistencyRun.step fun _ => inconsistentStatus) (.initial .empty)).db) := by
  intro log
  have linked := log.linked
  revert linked
  decide

end Run

end MegaraidDashboard.Web
