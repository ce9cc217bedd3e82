import MegaraidDashboard.Model.Db.Database
import MegaraidDashboard.Model.Services.EventDetector

/-! # The collector service

One process runs the collector. `World` is the database, the detector object and the number of clock
readings taken so far; every `datetime.now` of the source reads `clock` once.
-/

namespace MegaraidDashboard.Services

open Db Storcli

structure World where
  db : Database
  detector : EventDetector
  tick : ℕ

def World.initial : World := ⟨.empty, .initial, 0⟩

section Recording

variable (clock : ℕ → ℤ)

/-- `record_event` -/
def World.record (world : World) (event : DetectedEvent) : World :=
  { world with
    db := world.db.insertEvent (clock world.tick) event.severity event.category event.subject
      event.summary event.before event.after none
    tick := world.tick + 1 }

/-- `record_operator_action` -/
def World.recordOperatorAction (world : World) (username message : String) : World :=
  { world with
    db := world.db.insertEvent (clock world.tick) .info .operatorAction .operatorAction message none none
      (some username)
    tick := world.tick + 1 }

end Recording

/-- `_COLLECTION_FAILED_PREFIX` -/
def collectionFailedPrefix : String := "Collection failed:"

/-- `_MONITORING_STALE_PREFIX` -/
def monitoringStalePrefix : String := "Monitoring stale:"

/-- `_STALE_MIN_FAILED_POLLS` -/
def staleMinFailedPolls : ℕ := 3

/-- `summary LIKE 'head%'`, which SQLite compares without regard to ASCII case. -/
def summaryStartsWith (event : Event) (head : String) : Bool :=
  Py.startsWith (asciiLower event.summary) (asciiLower head)

/-- The newest event of category `system`. -/
def latestSystemEvent (db : Database) : Option Event :=
  (db.events.filter fun event => event.category == .system).latest? (·.occurredAt)

/-- `_latest_system_event_was_collection_failure` -/
def latestSystemEventWasCollectionFailure (db : Database) : Bool :=
  match latestSystemEvent db with
  | none => false
  | some event =>
    Py.startsWith event.summary collectionFailedPrefix || Py.startsWith event.summary monitoringStalePrefix

def collectionRecovered : DetectedEvent where
  severity := .info
  category := .system
  subject := .controller
  summary := "Collection recovered"
  before := none
  after := some [("monitoring_outage", .bool false)]

/-- `_load_temperature_states` -/
def loadTemperatureStates (db : Database) (snapshot : StorcliSnapshot) : TempStateTable :=
  db.tempStates.filterKeys fun key => (snapshot.physicalDrives.map driveKey).contains key

/-! ## Controller temperature clears -/

/-- `_controller_clear_boundary` -/
def controllerClearBoundary (settings : Settings) (severity : Severity) : ℤ :=
  (if severity = .critical then settings.rocTempCriticalCelsius else settings.rocTempWarningCelsius) -
    settings.rocTempHysteresisCelsius

/-- One pass of the loop in `record_controller_temperature_clears`: the time stored afterwards. -/
def clearedAt (snapshots : List ControllerSnapshot) (boundary : ℤ) (existing temperature : Option ℤ)
    (captured : ℤ) : Option ℤ :=
  let cleared : Bool := temperature.any fun temperature => decide (temperature ≤ boundary)
  let observed :=
    if cleared then some captured
    else if existing.isNone then
      ((snapshots.filter fun snapshot => decide (snapshot.capturedAt ≤ captured) &&
        snapshot.rocTemperatureCelsius.any fun temperature => decide (temperature ≤ boundary)).map
        (·.capturedAt)).max?
    else none
  match observed, existing with
  | none, existing => existing
  | some observed, none => some observed
  | some observed, some existing => if existing < observed then some observed else some existing

/-- `record_controller_temperature_clears` -/
def recordControllerTemperatureClears (settings : Settings) (db : Database) (temperature : Option ℤ)
    (capturedAt : ℤ) : Database :=
  { db with
    rocWarningClearedAt := clearedAt db.snapshots (controllerClearBoundary settings .warning)
      db.rocWarningClearedAt temperature capturedAt
    rocCriticalClearedAt := clearedAt db.snapshots (controllerClearBoundary settings .critical)
      db.rocCriticalClearedAt temperature capturedAt }

/-! ## Retention -/

/-- `run_retention_once`; a failed transaction changes nothing. -/
def World.retention (world : World) (windows : RetentionSettings) (now : ℤ) : World :=
  match runRetentionTransaction windows world.db.toMetricsStore now with
  | none => world
  | some store => { world with db := { world.db with toMetricsStore := store } }

/-! ## One poll -/

variable [PyText]

/-- What one detection compares: the saved snapshot, the poll and the detector with the stored
temperature states. -/
def World.detection (settings : Settings) (world : World) (snapshot : StorcliSnapshot) :
    List DetectedEvent × EventDetector :=
  detect settings { world.detector with temperatureStates := loadTemperatureStates world.db snapshot }
    world.db.latestSnapshot snapshot

/-- The events that a committed poll records: the detected ones, then the recovery. -/
def World.pollEvents (settings : Settings) (world : World) (snapshot : StorcliSnapshot) :
    List DetectedEvent :=
  (world.detection settings snapshot).1 ++
    (if latestSystemEventWasCollectionFailure world.db then [collectionRecovered] else [])

/-- The rows of the snapshot before any event is recorded. -/
def World.stored (settings : Settings) (world : World) (snapshot : StorcliSnapshot) : World :=
  { world with
    db := recordControllerTemperatureClears settings (world.db.insertSnapshot snapshot)
      snapshot.controller.rocTemperatureCelsius snapshot.capturedAt
    detector := (world.detection settings snapshot).2 }

/-- The temperature states that a detection leaves in the database. -/
def applyTemperatureStates (detector : EventDetector) (db : Database) : Database :=
  detector.temperatureUpdates.foldl (fun db update => db.upsertTempState update.1 update.2)
    (detector.temperatureClears.foldl Database.clearTempStateForSlot db)

/-- The committed transaction of `run_once`. -/
def World.poll (settings : Settings) (clock : ℕ → ℤ) (world : World) (snapshot : StorcliSnapshot) : World :=
  let recorded := (world.pollEvents settings snapshot).foldl (World.record clock)
    (world.stored settings snapshot)
  { recorded with db := applyTemperatureStates recorded.detector recorded.db }

/-! ## Failed polls -/

/-- The `occurred_at` of the failures that `_monitoring_stale_summary` counts. -/
def failureTimes (db : Database) : List ℤ :=
  let lastSuccess := (db.snapshots.map (·.capturedAt)).max?
  (db.events.filter fun event => event.category == .system &&
    summaryStartsWith event collectionFailedPrefix &&
    lastSuccess.all fun lastSuccess => decide (lastSuccess < event.occurredAt)).map (·.occurredAt)

/-- `_monitoring_stale_summary` for a failure recorded at the given time. -/
def monitoringStaleSummary (settings : Settings) (db : Database) (failureAt : ℤ) : Option String := do
  let times := failureTimes db
  guard (staleMinFailedPolls ≤ times.length)
  let staleSince ← ((db.snapshots.map (·.capturedAt)).max?).or times.min?
  let staleFor := failureAt - staleSince
  guard (settings.collectorStaleAlertMinutes * Timestamp.minute ≤ staleFor)
  guard (!db.events.any fun event => event.category == .system &&
    summaryStartsWith event monitoringStalePrefix && decide (staleSince < event.occurredAt))
  return monitoringStalePrefix ++ s!" no successful collection for {staleFor / Timestamp.minute} min ({times.length} failed polls); RAID state is unknown"

/-- `_record_collection_failure`; the error text is the exception's type and message. -/
def World.recordCollectionFailure (settings : Settings) (clock : ℕ → ℤ) (world : World) (error : String) :
    World :=
  let failed := world.record clock {
    severity := .warning
    category := .system
    subject := .controller
    summary := collectionFailedPrefix ++ s!" {error}"
    before := none
    after := none }
  match monitoringStaleSummary settings failed.db (clock world.tick) with
  | none => failed
  | some summary =>
    failed.record clock {
      severity := .critical
      category := .system
      subject := .controller
      summary := summary
      before := none
      after := some [("monitoring_outage", .bool true)] }

end MegaraidDashboard.Services
