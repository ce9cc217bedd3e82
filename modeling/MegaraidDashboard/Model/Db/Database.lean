import MegaraidDashboard.Model.Config
import MegaraidDashboard.Model.Storcli.Models
import MegaraidDashboard.ToMathlib.ListQueries

/-! # The database

Rows stand in insertion order, so that a later row has the greater identifier. The three keys of
`system_state` that the modelled services write are fields.
-/

namespace MegaraidDashboard.Db

structure Database extends MetricsStore where
  events : List Event
  deliveries : DeliveryTable
  tempStates : TempStateTable
  /-- `telegram_not_before` -/
  telegramNotBefore : Option ℤ
  /-- `telegram_roc_warning_cleared_at` -/
  rocWarningClearedAt : Option ℤ
  /-- `telegram_roc_critical_cleared_at` -/
  rocCriticalClearedAt : Option ℤ

/-- The tables after the migrations. -/
def Database.empty : Database where
  snapshots := []
  hourly := ∅
  daily := ∅
  events := []
  deliveries := ∅
  tempStates := ∅
  telegramNotBefore := none
  rocWarningClearedAt := none
  rocCriticalClearedAt := none

section Rows

open Storcli

def VirtualDriveSnapshot.ofStorcli (drive : VirtualDrive) : VirtualDriveSnapshot where
  vdId := drive.vdId
  state := drive.state

def PhysicalDriveSnapshot.ofStorcli (drive : PhysicalDrive) : PhysicalDriveSnapshot where
  enclosureId := drive.enclosureId
  slotId := drive.slotId
  deviceId := drive.deviceId
  serialNumber := drive.serialNumber
  state := drive.state
  diskGroupId := drive.diskGroupId
  temperatureCelsius := drive.temperatureCelsius
  mediaErrors := drive.mediaErrors
  otherErrors := drive.otherErrors
  predictiveFailures := drive.predictiveFailures
  smartAlert := drive.smartAlert

def CacheVaultSnapshot.ofStorcli (cachevault : CacheVault) : CacheVaultSnapshot where
  state := cachevault.state
  temperatureCelsius := cachevault.temperatureCelsius
  capacitancePercent := cachevault.capacitancePercent
  replacementRequired := cachevault.replacementRequired

/-- The columns of a snapshot that `insert_snapshot` fills. -/
def ControllerSnapshot.ofStorcli (id : ℕ) (snapshot : StorcliSnapshot) : ControllerSnapshot where
  id := id
  capturedAt := snapshot.capturedAt
  alarmState := snapshot.controller.alarmState
  cvPresent := snapshot.controller.cvPresent
  bbuPresent := snapshot.controller.bbuPresent
  rocTemperatureCelsius := snapshot.controller.rocTemperatureCelsius
  virtualDrives := snapshot.virtualDrives.map .ofStorcli
  physicalDrives := snapshot.physicalDrives.map .ofStorcli
  cachevault := snapshot.cachevault.map .ofStorcli

end Rows

namespace Database

/-- `get_latest_snapshot` -/
def latestSnapshot (db : Database) : Option ControllerSnapshot := db.snapshots.latest? (·.capturedAt)

/-- The identifier of the next row. -/
def nextSnapshotId (db : Database) : ℕ := (db.snapshots.map (·.id)).foldl max 0 + 1

/-- `insert_snapshot` -/
def insertSnapshot (db : Database) (snapshot : Storcli.StorcliSnapshot) : Database :=
  { db with snapshots := db.snapshots ++ [.ofStorcli db.nextSnapshotId snapshot] }

/-- The insertion of an event row; `record_event` takes the time from the clock. -/
def insertEvent (db : Database) (occurredAt : ℤ) (severity : Severity) (category : Category)
    (subject : Subject) (summary : String) (before after : Option Payload)
    (operatorUsername : Option String) : Database :=
  { db with
    events := db.events ++ [{
      id := db.events.length + 1
      occurredAt := occurredAt
      severity := severity
      category := category
      subject := subject
      summary := summary
      beforeJson := before
      afterJson := after
      operatorUsername := operatorUsername
      notifiedAt := none }] }

/-- `upsert_temp_state` -/
def upsertTempState (db : Database) (key : DriveKey) (state : TempState) : Database :=
  { db with tempStates := db.tempStates.insert key state }

/-- `clear_temp_state_for_slot` -/
def clearTempStateForSlot (db : Database) (slot : SlotKey) : Database :=
  { db with tempStates := db.tempStates.filterKeys fun key => key.slot != slot }

end Database

end MegaraidDashboard.Db
