import MegaraidDashboard.Model.Services.EventDetector
import MegaraidDashboard.Model.Db.Database

/-! # The disk-space monitor

One check compares the free space of the data partition with two limits. It has no state but the newest
event of its category. Space is measured in whole mebibytes.
-/

namespace MegaraidDashboard.Services

open Db

/-- The settings of the monitor. -/
structure DiskSettings where
  diskWarningFreeMb : ℤ
  diskCriticalFreeMb : ℤ
  warningPositive : 0 < diskWarningFreeMb
  criticalPositive : 0 < diskCriticalFreeMb
  ordered : diskCriticalFreeMb < diskWarningFreeMb

/-- The default values. -/
def DiskSettings.default : DiskSettings := ⟨500, 100, by decide, by decide, by decide⟩

/-- `RECOVERY_HYSTERESIS_MB` -/
def recoveryHysteresisMb : ℤ := 50

/-- `SUPPRESS_WINDOW` -/
def suppressWindow : ℤ := 6 * Timestamp.hour

/-- `_free_space_mb` of the free bytes. -/
def freeSpaceMb (free : ℕ) : ℤ := (free / (1024 * 1024) : ℕ)

def isDiskSpaceEvent (event : Event) : Bool := event.category == .diskSpace

/-- The rows of the category, oldest first. -/
def diskSpaceEvents (db : Database) : List Event := db.events.filter isDiskSpaceEvent

/-- `_latest_disk_space_event` -/
def latestDiskSpaceEvent (db : Database) : Option Event := (diskSpaceEvents db).latest? (·.occurredAt)

/-- `_should_suppress`; no result is the `OverflowError` of `now - SUPPRESS_WINDOW`. -/
def shouldSuppress (latest : Option Event) (severity : Severity) (now : ℤ) : Option Bool :=
  match latest with
  | none => some false
  | some event =>
    if event.severity ≠ severity then some false
    else if now - suppressWindow < 0 then none
    else some (decide (now - suppressWindow ≤ event.occurredAt))

/-- The severity of a free space below a limit, with its text and the limit. -/
def DiskSettings.shortage (settings : DiskSettings) (freeMb : ℤ) : Option (Severity × String × ℤ) :=
  if freeMb < settings.diskCriticalFreeMb then some (.critical, "critical", settings.diskCriticalFreeMb)
  else if freeMb < settings.diskWarningFreeMb then some (.warning, "warning", settings.diskWarningFreeMb)
  else none

/-- The event of a check. -/
def DiskSettings.event (settings : DiskSettings) (severity : Severity) (summary : String) (freeMb : ℤ) :
    DetectedEvent where
  severity := severity
  category := .diskSpace
  subject := .dataPartition
  summary := summary
  before := none
  after := some [("free_mb", .int freeMb), ("warning_free_mb", .int settings.diskWarningFreeMb),
    ("critical_free_mb", .int settings.diskCriticalFreeMb)]

/-- `check_data_partition_free_space`. The free bytes are absent where the database is not SQLite; no
result is an exception. -/
def checkDataPartitionFreeSpace (settings : DiskSettings) (db : Database) (free : Option ℕ) (now : ℤ) :
    Option (List DetectedEvent) :=
  match free with
  | none => some []
  | some free =>
    let freeMb := freeSpaceMb free
    let latest := latestDiskSpaceEvent db
    match settings.shortage freeMb with
    | some (severity, name, thresholdMb) =>
      (shouldSuppress latest severity now).map fun suppressed =>
        if suppressed then []
        else [settings.event severity
          s!"Free space on data partition: {freeMb} MB (below {name} threshold {thresholdMb} MB)" freeMb]
    | none =>
      if (latest.any fun event => event.severity == .warning || event.severity == .critical) &&
          decide (settings.diskWarningFreeMb + recoveryHysteresisMb < freeMb) then
        some [settings.event .info s!"Free space recovered: {freeMb} MB" freeMb]
      else some []

/-- `_run_disk_space_monitor_transaction`; an exception leaves the tables alone. -/
def runDiskSpaceMonitorTransaction (settings : DiskSettings) (db : Database) (free : Option ℕ) (now : ℤ) :
    Database :=
  ((checkDataPartitionFreeSpace settings db free now).getD []).foldl (fun db event =>
    db.insertEvent now event.severity event.category event.subject event.summary event.before event.after none) db

/-! ## The run -/

inductive DiskStep where
  /-- A check finds this many free bytes on the partition of the SQLite database. -/
  | check (free : ℕ) (now : ℤ)
  /-- Another service records an event of its own category. -/
  | elsewhere (event : DetectedEvent) (occurredAt : ℤ) (operatorUsername : Option String)
    (other : event.category ≠ .diskSpace)

/-- The time of a check. -/
def DiskStep.now? : DiskStep → Option ℤ
  | .check _ now => some now
  | .elsewhere .. => none

def diskStep (settings : DiskSettings) (db : Database) : DiskStep → Database
  | .check free now => runDiskSpaceMonitorTransaction settings db (some free) now
  | .elsewhere event occurredAt operatorUsername _ =>
    db.insertEvent occurredAt event.severity event.category event.subject event.summary event.before event.after
      operatorUsername

end MegaraidDashboard.Services
