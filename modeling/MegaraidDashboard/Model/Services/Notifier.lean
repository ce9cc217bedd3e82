import Mathlib.Data.List.Sort
import MegaraidDashboard.Model.Web.Maintenance

/-! # The SMTP notifier

One cycle reads the pending events, marks duplicates, sends the others and commits once. The transport
answers for each event whether the message was accepted or a handled exception was raised.
-/

namespace MegaraidDashboard.Services

open Db Web

/-- The settings of the notifier. -/
structure AlertSettings where
  alertSeverityThreshold : Severity
  alertSuppressWindowMinutes : ℕ
  suppressPositive : 0 < alertSuppressWindowMinutes

/-- The default values. -/
def AlertSettings.default : AlertSettings := ⟨.critical, 60, by decide⟩

/-- `_SEVERITY_RANK` -/
def severityRank : Severity → ℕ
  | .info => 0
  | .warning => 1
  | .critical => 2

/-- `_PER_CATEGORY_SUPPRESS_MINUTES` -/
def perCategorySuppressMinutes : Category → Option ℕ
  | .controllerTemperature => some 1440
  | .foreignConfigDetected => some 1440
  | _ => none

/-- `timedelta(minutes=_suppress_window_minutes(event, settings))` -/
def AlertSettings.suppressWindow (settings : AlertSettings) (category : Category) : ℤ :=
  (perCategorySuppressMinutes category).getD settings.alertSuppressWindowMinutes * Timestamp.minute

/-- `timedelta(minutes=_max_suppress_window_minutes(settings))` -/
def AlertSettings.maxSuppressWindow (settings : AlertSettings) : ℤ :=
  max settings.alertSuppressWindowMinutes 1440 * Timestamp.minute

/-- `iter_pending_events` -/
def pendingEvents (db : Database) (threshold : Severity) (since : ℤ) : List Event :=
  (db.events.filter fun event => decide (severityRank threshold ≤ severityRank event.severity) &&
    event.notifiedAt.isNone && decide (since ≤ event.occurredAt)).insertionSort fun first second =>
      first.occurredAt < second.occurredAt ∨ first.occurredAt = second.occurredAt ∧ first.id ≤ second.id

/-- The columns by which two alerts are the same. -/
def sameAlert (first second : Event) : Bool :=
  first.severity == second.severity && first.category == second.category && first.subject == second.subject

/-- `_event_was_notified_recently` -/
def eventWasNotifiedRecently (db : Database) (event : Event) (since : ℤ) : Bool :=
  db.events.any fun other => sameAlert other event &&
    (other.notifiedAt.any fun notifiedAt => decide (since ≤ notifiedAt)) && other.id != event.id

/-- `mark_event_notified` -/
def markEventNotified (db : Database) (id : ℕ) (sentAt : ℤ) : Database :=
  { db with
    events := db.events.map fun event => if event.id = id then { event with notifiedAt := some sentAt }
      else event }

/-- The session of a cycle with the events that it has attempted and e-mailed so far. -/
structure NotifierCycle where
  db : Database
  attempted : List Event
  emailed : List Event

/-- One pass of the loop in `run_notifier_cycle`. -/
def NotifierCycle.notify (settings : AlertSettings) (now : ℤ) (transport : Event → Bool) (cycle : NotifierCycle)
    (event : Event) : NotifierCycle :=
  let since := now - settings.suppressWindow event.category
  if event.occurredAt < since then cycle
  else if eventWasNotifiedRecently cycle.db event since then
    { cycle with
      db := markEventNotified cycle.db event.id now
      attempted := cycle.attempted ++ [event] }
  else if transport event then
    { db := markEventNotified cycle.db event.id now
      attempted := cycle.attempted ++ [event]
      emailed := cycle.emailed ++ [event] }
  else { cycle with attempted := cycle.attempted ++ [event] }

/-- `earliest_since` -/
def AlertSettings.earliestSince (settings : AlertSettings) (now : ℤ) : Option ℤ :=
  Timestamp.minus now settings.maxSuppressWindow

/-- The events that a cycle goes through: none during maintenance, and none where the `OverflowError` of its earliest
time ends the cycle. -/
def cycleEvents (settings : AlertSettings) (maintenance : Option MaintenanceRecord) (db : Database) (now : ℤ) :
    List Event :=
  if maintenanceActive maintenance now then []
  else match settings.earliestSince now with
    | none => []
    | some since => pendingEvents db settings.alertSeverityThreshold since

/-- `run_notifier_cycle` up to its commit. -/
def runNotifierCycle (settings : AlertSettings) (maintenance : Option MaintenanceRecord) (db : Database)
    (now : ℤ) (transport : Event → Bool) : NotifierCycle :=
  (cycleEvents settings maintenance db now).foldl (NotifierCycle.notify settings now transport) ⟨db, [], []⟩

/-! ## Runs -/

/-- A message that the transport accepted. -/
structure Email where
  event : Event
  sentAt : ℤ

/-- The tables with every message that was ever accepted and the time of the last cycle. -/
structure NotifierRun where
  db : Database
  maintenance : Option MaintenanceRecord
  emailed : List Email
  lastCycle : Option ℤ

def NotifierRun.initial : NotifierRun := ⟨.empty, none, [], none⟩

inductive NotifierStep where
  /-- Any service records an event. -/
  | record (occurredAt : ℤ) (severity : Severity) (category : Category) (subject : Subject) (summary : String)
      (before after : Option Payload) (operatorUsername : Option String)
  | maintenanceStart (request : MaintenanceStartRequest) (username : String) (now : ℤ)
  | maintenanceStop (username : String) (now : ℤ)
  | cycle (now : ℤ) (transport : Event → Bool)
  /-- An exception that the cycle does not handle ends it after some events, and nothing is committed. -/
  | abortedCycle (now : ℤ) (transport : Event → Bool) (after : ℕ)

def NotifierRun.step (settings : AlertSettings) (run : NotifierRun) : NotifierStep → NotifierRun
  | .record occurredAt severity category subject summary before after operatorUsername =>
    { run with
      db := run.db.insertEvent occurredAt severity category subject summary before after operatorUsername }
  | .maintenanceStart request username now =>
    { run with
      maintenance := some (request.record username now)
      db := run.db.insertEvent now .info .operatorAction .operatorAction request.message none none
        (some username) }
  | .maintenanceStop username now =>
    { run with
      maintenance := some maintenanceStopped
      db := if maintenanceActive run.maintenance now then
        run.db.insertEvent now .info .operatorAction .operatorAction "maintenance stop" none none (some username)
        else run.db }
  | .cycle now transport =>
    let cycle := runNotifierCycle settings run.maintenance run.db now transport
    { run with
      db := cycle.db
      emailed := run.emailed ++ cycle.emailed.map fun event => ⟨event, now⟩
      lastCycle := some now }
  | .abortedCycle now transport after =>
    let cycle := ((cycleEvents settings run.maintenance run.db now).take after).foldl
      (NotifierCycle.notify settings now transport) ⟨run.db, [], []⟩
    { run with
      emailed := run.emailed ++ cycle.emailed.map fun event => ⟨event, now⟩
      lastCycle := some now }

end MegaraidDashboard.Services
