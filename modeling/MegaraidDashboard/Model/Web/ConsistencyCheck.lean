import Mathlib.Logic.Function.Basic
import MegaraidDashboard.Model.Db.Database
import MegaraidDashboard.Model.Services.EventDetector

/-! # Consistency-check inconsistency events

A request for the consistency-check status compares what the controller reports with the newest event of the
category and records a change. The driver opens the write transaction at the insertion only, so that other
requests may run between the two.
-/

namespace MegaraidDashboard.Web

open Db Services

structure ConsistencyCheckStatus where
  mode : String
  state : String
  progressPercent : Option ℤ
  lastRunTimestamp : Option String
  inconsistencyCount : Option ℤ
  inconsistencyDetail : Option String
deriving DecidableEq, Repr

/-- `has_inconsistency` -/
def ConsistencyCheckStatus.hasInconsistency (status : ConsistencyCheckStatus) : Bool :=
  match status.inconsistencyCount with
  | some count => decide (0 < count)
  | none => status.inconsistencyDetail.isSome

/-- `_consistency_check_response_body` -/
def ConsistencyCheckStatus.responseBody (status : ConsistencyCheckStatus) : Payload := [
  ("mode", .str status.mode), ("state", .str status.state), ("progress_percent", .ofInt? status.progressPercent),
  ("last_run_timestamp", .ofStr? status.lastRunTimestamp),
  ("inconsistency_count", .ofInt? status.inconsistencyCount),
  ("inconsistency_detail", .ofStr? status.inconsistencyDetail)]

def inconsistencyDetectedSummary : String := "consistency check inconsistency detected"

def inconsistencyResolvedSummary : String := "consistency check inconsistency resolved"

/-- The event of a change. -/
def ConsistencyCheckStatus.event (status : ConsistencyCheckStatus) (severity : Severity) (summary : String) :
    DetectedEvent where
  severity := severity
  category := .consistencyCheckInconsistency
  subject := .controller
  summary := summary
  before := none
  after := some status.responseBody

/-- What `_record_consistency_check_inconsistency_state_sync` records after it has read the newest event. -/
def ConsistencyCheckStatus.transition (status : ConsistencyCheckStatus) (existing : Option Event) :
    Option DetectedEvent :=
  if status.hasInconsistency then
    if existing.any fun event => event.summary == inconsistencyDetectedSummary then none
    else some (status.event .warning inconsistencyDetectedSummary)
  else if existing.all fun event => event.summary == inconsistencyResolvedSummary then none
  else some (status.event .info inconsistencyResolvedSummary)

/-- The rows of the category, in the order of their identifiers. -/
def inconsistencyEvents (db : Database) : List Event :=
  db.events.filter fun event => event.category == .consistencyCheckInconsistency

/-! ## The run -/

inductive InconsistencyPhase where
  | arrived
  /-- The event to be recorded, and how many rows of the category there were when the newest one was read. -/
  | recording (event : DetectedEvent) (seen : ℕ)
  | ended

structure InconsistencyRun where
  db : Database
  phase : ℕ → InconsistencyPhase

def InconsistencyRun.initial (db : Database) : InconsistencyRun := ⟨db, fun _ => .arrived⟩

inductive InconsistencyStep where
  | read (request : ℕ)
  /-- The insertion and its commit; the time was read before the transaction was opened. -/
  | commit (request : ℕ) (occurredAt : ℤ)
  /-- An exception rolls the request back. -/
  | fail (request : ℕ)
  /-- Another service records an event of its own category. -/
  | elsewhere (event : DetectedEvent) (occurredAt : ℤ) (operatorUsername : Option String)
    (other : event.category ≠ .consistencyCheckInconsistency)

namespace InconsistencyRun

def setPhase (run : InconsistencyRun) (request : ℕ) (phase : InconsistencyPhase) : InconsistencyRun :=
  { run with phase := Function.update run.phase request phase }

def insert (run : InconsistencyRun) (event : DetectedEvent) (occurredAt : ℤ) (operatorUsername : Option String) :
    InconsistencyRun :=
  { run with
    db := run.db.insertEvent occurredAt event.severity event.category event.subject event.summary event.before
      event.after operatorUsername }

/-- One step; a step that is not the request's next one is void. -/
def step (requests : ℕ → ConsistencyCheckStatus) (run : InconsistencyRun) : InconsistencyStep → InconsistencyRun
  | .read request =>
    match run.phase request with
    | .arrived =>
      let rows := inconsistencyEvents run.db
      match (requests request).transition (rows.latest? (·.occurredAt)) with
      | none => run.setPhase request .ended
      | some event => run.setPhase request (.recording event rows.length)
    | _ => run
  | .commit request occurredAt =>
    match run.phase request with
    | .recording event _ => (run.insert event occurredAt none).setPhase request .ended
    | _ => run
  | .fail request => run.setPhase request .ended
  | .elsewhere event occurredAt operatorUsername _ => run.insert event occurredAt operatorUsername

end InconsistencyRun

end MegaraidDashboard.Web
