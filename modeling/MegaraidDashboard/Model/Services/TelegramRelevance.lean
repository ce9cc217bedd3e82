import MegaraidDashboard.Model.Services.Scheduler
import MegaraidDashboard.Model.Services.TelegramMessages

/-! # Relevance of queued incidents

Queued incidents are compared with the newest saved snapshot and with the later events. The queries
are read off the tables; a query for one row of a subject parses the subject's text in the source,
which holds the identifiers of a drive when they are not negative.
-/

namespace MegaraidDashboard.Services

open Db Storcli

/-- The groups of `DRIVE_SUBJECT.fullmatch`. -/
def driveSubject : Subject → Option SlotKey
  | .physicalDrive enclosureId slotId =>
    if 0 ≤ enclosureId ∧ 0 ≤ slotId then some (enclosureId, slotId) else none
  | _ => none

/-- The newest snapshot captured by the given time. -/
def snapshotAt (db : Database) (time : ℤ) : Option ControllerSnapshot :=
  (db.snapshots.filter fun snapshot => decide (snapshot.capturedAt ≤ time)).latest? (·.capturedAt)

def driveInSlot (snapshot : ControllerSnapshot) (slot : SlotKey) : Option PhysicalDriveSnapshot :=
  snapshot.physicalDrives.find? fun drive => snapshotSlotKey drive == slot

/-- `value or None` -/
def nonempty? (value : String) : Option String := if value = "" then none else some value

/-- `drive_serial_at` -/
def driveSerialAt (db : Database) (event : Event) : Option String :=
  match afterGet event "serial_number" with
  | some (.str serial) => nonempty? serial
  | _ => do
    let slot ← driveSubject event.subject
    let drive ← driveInSlot (← snapshotAt db event.occurredAt) slot
    nonempty? drive.serialNumber

/-- `_stored_clear_time` for the severity's key. -/
def storedClearTime (db : Database) : Severity → Option ℤ
  | .warning => db.rocWarningClearedAt
  | .critical => db.rocCriticalClearedAt
  | .info => none

/-- `_controller_temperature_recovered` -/
def controllerTemperatureRecovered (settings : Settings) (db : Database) (event : Event) (asOf : ℤ) : Bool :=
  event.category == .controllerTemperature && event.severity != .info &&
    ((storedClearTime db event.severity).any (fun cleared =>
        decide (event.occurredAt < cleared) && decide (cleared ≤ asOf)) ||
      db.snapshots.any fun snapshot =>
        decide (event.occurredAt < snapshot.capturedAt) && decide (snapshot.capturedAt ≤ asOf) &&
          snapshot.rocTemperatureCelsius.any fun temperature =>
            decide (temperature ≤ controllerClearBoundary settings event.severity))

/-- `_flag_incident_started` -/
def flagIncidentStarted (event : Event) : Bool :=
  let started (field : String) :=
    beforeGet event field == some (.bool false) && afterGet event field == some (.bool true)
  match event.category with
  | .smartAlert => started "smart_alert"
  | .cvState => started "replacement_required"
  | _ => false

/-- The field names of an event's after object without the serial. -/
def dimensionFields (event : Event) : List String :=
  (event.afterJson.getD []).fields.filter (· != "serial_number")

variable [PyText]

/-- A later event of the same category and subject that ends the incident of the first. -/
def supersedes (event other : Event) : Bool :=
  ((dimensionFields event).any fun field => (other.afterJson.getD []).fields.contains field) &&
    (other.severity != event.severity || incidentKey other != incidentKey event || flagIncidentStarted other ||
      (event.category == .pdState && afterGet other "serial_number" != afterGet event "serial_number"))

/-- `incident_superseded`; without a bound on the identifier when `beforeId` is empty. -/
def incidentSuperseded (settings : Settings) (db : Database) (event : Event) (asOf : ℤ)
    (beforeId : Option ℕ) : Bool :=
  (db.events.any fun other => other.category == event.category && other.subject == event.subject &&
    decide (event.id < other.id) && decide (other.occurredAt ≤ asOf) &&
    (beforeId.all fun beforeId => decide (other.id < beforeId)) && supersedes event other) ||
  controllerTemperatureRecovered settings db event asOf

/-! ## Relevance -/

/-- What `delivery_relevance` returns. -/
inductive Relevance where
  | active
  | obsolete
  | awaiting (detail : String)
  /-- No answer but an `OverflowError`. -/
  | raised
deriving DecidableEq, Repr

def Relevance.ofActive (active : Bool) : Relevance := if active then .active else .obsolete

/-- `str(value)` of a value of the after object, or of its absence. -/
def pyStr : Option Scalar → String
  | none | some .null => "None"
  | some (.bool true) => "True"
  | some (.bool false) => "False"
  | some (.int value) => s!"{value}"
  | some (.str value) => value

/-- `_temperature_relevance` -/
def temperatureRelevance (temperature : Option ℤ) (severity : Severity) (warning critical hysteresis : ℤ)
    (clearAtBoundary : Bool) : Relevance :=
  match temperature with
  | none => .awaiting "awaiting_temperature"
  | some temperature =>
    let boundary := (if severity = .critical then critical else warning) - hysteresis
    let aboveBoundary : Bool := if clearAtBoundary then decide (boundary < temperature)
      else decide (boundary ≤ temperature)
    .ofActive (aboveBoundary && (severity == .critical || decide (temperature < critical)))

/-- The branch of `delivery_relevance` for a virtual drive. -/
def virtualDriveRelevance (snapshot : ControllerSnapshot) (event : Event) : Relevance :=
  let drive := snapshot.virtualDrives.find? fun drive => event.subject == .virtualDrive drive.vdId
  match afterGet event "state", drive with
  | some (.str state), none => .ofActive (normalizedState state == "offline")
  | some (.str state), some drive =>
    .ofActive (afterGet event "present" != some (.bool false) &&
      normalizedState drive.state == normalizedState state)
  | _, _ => .awaiting "awaiting_incident_state"

/-- The branch of `delivery_relevance` for the CacheVault. -/
def cachevaultRelevance (snapshot : ControllerSnapshot) (event : Event) : Relevance :=
  match snapshot.cachevault with
  | none =>
    if snapshot.cvPresent then .awaiting "awaiting_incident_state"
    else .ofActive (afterGet event "present" == some (.bool false))
  | some cachevault =>
    match afterGet event "present" with
    | some value => .ofActive (value == .bool true)
    | none =>
      match afterGet event "state" with
      | some state => .ofActive (normalizedState cachevault.state == normalizedState (pyStr state))
      | none =>
        .ofActive (cachevault.replacementRequired && afterGet event "replacement_required" == some (.bool true))

/-- `getattr(drive_pd, event.category)` for the counters. -/
def counterValue (drive : PhysicalDriveSnapshot) : Category → Option ℤ
  | .mediaErrors => some drive.mediaErrors
  | .otherErrors => some drive.otherErrors
  | .predictiveFailures => some drive.predictiveFailures
  | _ => none

/-- `value` when `isinstance(value, int)`, which holds of booleans too. -/
def intValue : Option Scalar → Option ℤ
  | some (.int value) => some value
  | some (.bool value) => some (if value then 1 else 0)
  | _ => none

/-- The branch of `delivery_relevance` for a drive that is in its slot under the event's serial. -/
def driveRelevance (settings : Settings) (db : Database) (drive : PhysicalDriveSnapshot) (event : Event) :
    Relevance :=
  match event.category with
  | .temperature =>
    let state := db.tempStates.lookup drive.key
    let disagrees : Bool := match state, event.severity with
      | none, _ | some .warning, .warning | some .critical, .critical => false
      | _, _ => true
    if disagrees then .obsolete
    else temperatureRelevance drive.temperatureCelsius event.severity settings.tempWarningCelsius
      settings.tempCriticalCelsius settings.tempHysteresisCelsius false
  | .pdState =>
    .ofActive (afterGet event "present" != some (.bool false) &&
      normalizedState drive.state == normalizedState (pyStr (afterGet event "state")))
  | .smartAlert => .ofActive drive.smartAlert
  | category =>
    match intValue (afterGet event category.name), counterValue drive category with
    | some value, some count => .ofActive (decide (max 1 value ≤ count))
    | _, _ => .awaiting "awaiting_incident_state"

/-- The part of `delivery_relevance` after the checks of the snapshot. -/
def objectRelevance (settings : Settings) (db : Database) (snapshot : ControllerSnapshot) (event : Event) :
    Relevance :=
  match event.category with
  | .controllerTemperature =>
    temperatureRelevance snapshot.rocTemperatureCelsius event.severity settings.rocTempWarningCelsius
      settings.rocTempCriticalCelsius settings.rocTempHysteresisCelsius true
  | .vdState => virtualDriveRelevance snapshot event
  | .cvState => cachevaultRelevance snapshot event
  | _ =>
    match driveSubject event.subject with
    | none => .awaiting "awaiting_drive_identity"
    | some slot =>
      match driveInSlot snapshot slot, driveSerialAt db event with
      | none, serial =>
        if event.category = .pdState ∧ normalizedState (pyStr (afterGet event "state")) = "missing" then
          if serial.isSome then .active else .awaiting "awaiting_drive_identity"
        else .obsolete
      | some _, none => .awaiting "awaiting_drive_identity"
      | some drive, some serial =>
        if drive.serialNumber = "" then .awaiting "awaiting_drive_identity"
        else if drive.serialNumber ≠ serial then .obsolete
        else driveRelevance settings db drive event

/-- `max(60, 2 * settings.metrics_interval_seconds)` as a duration: how old the newest snapshot may be. -/
def freshness (settings : Settings) : ℤ := max 60 (2 * (settings.metricsIntervalSeconds : ℤ)) * Timestamp.second

/-- `delivery_relevance` -/
def deliveryRelevance (settings : Settings) (db : Database) (event : Event) (now : ℤ) : Relevance :=
  let snapshot := snapshotAt db now
  if event.category = .system then
    .ofActive (!snapshot.any fun snapshot => decide (event.occurredAt ≤ snapshot.capturedAt))
  else
    match Timestamp.timedelta (freshness settings), snapshot with
    | none, _ => .raised
    | some _, none => .awaiting "awaiting_fresh_data"
    | some freshness, some snapshot =>
      match Timestamp.minus now freshness with
      | none => .raised
      | some oldest =>
        let failed := db.events.any fun event => event.category == .system &&
          summaryStartsWith event collectionFailedPrefix && decide (snapshot.capturedAt ≤ event.occurredAt) &&
          decide (event.occurredAt ≤ now)
        if snapshot.capturedAt < oldest ∨ failed then .awaiting "awaiting_fresh_data"
        else if incidentSuperseded settings db event now none then .obsolete
        else objectRelevance settings db snapshot event

end MegaraidDashboard.Services
