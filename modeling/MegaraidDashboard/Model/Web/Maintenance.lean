import MegaraidDashboard.Model.Db.Database
import MegaraidDashboard.Model.Python.Text

/-! # The maintenance window

The value under the key `maintenance_mode` of `system_state`, and the two requests that write it.
-/

namespace MegaraidDashboard.Web

open Db

/-- The stored payload. -/
structure MaintenanceRecord where
  active : Bool
  expiresAt : Option ℤ
  startedBy : Option String
deriving DecidableEq, Repr

/-- `get_maintenance_state(session, now).active`; the key may be absent. -/
def maintenanceActive (stored : Option MaintenanceRecord) (now : ℤ) : Bool :=
  stored.any fun record => record.active && !record.expiresAt.any fun expiresAt => decide (expiresAt ≤ now)

/-- `maintenance_writes_enabled` -/
def maintenanceWritesEnabled (stored : Option MaintenanceRecord) (configured : Bool) (now : ℤ) : Bool :=
  match stored with
  | none => configured
  | some _ => maintenanceActive stored now

/-- A body of `/maintenance/start` that passes the validation; the reason is already stripped. -/
structure MaintenanceStartRequest where
  durationMinutes : ℕ
  reason : String
  durationRange : 1 ≤ durationMinutes ∧ durationMinutes ≤ 1440
  reasonNonblank : reason ≠ ""
  reasonStripped : Py.strip reason = reason
  reasonLength : reason.length ≤ 200

/-- The record that `/maintenance/start` stores. -/
def MaintenanceStartRequest.record (request : MaintenanceStartRequest) (username : String) (now : ℤ) :
    MaintenanceRecord where
  active := true
  expiresAt := some (now + request.durationMinutes * Timestamp.minute)
  startedBy := some username

/-- The audit message of `/maintenance/start`. -/
def MaintenanceStartRequest.message (request : MaintenanceStartRequest) : String :=
  s!"maintenance start duration {request.durationMinutes} min reason: {request.reason}"

/-- The record that `/maintenance/stop` stores. -/
def maintenanceStopped : MaintenanceRecord := ⟨false, none, none⟩

end MegaraidDashboard.Web
