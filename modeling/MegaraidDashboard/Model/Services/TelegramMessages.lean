import Mathlib.Data.List.Sort
import MegaraidDashboard.Model.Db.Models
import MegaraidDashboard.Model.Storcli.States

/-! # Incident identity

The part of the message module that decides, not the part that renders: which events describe an
outage of the monitoring, and which events belong to one incident.
-/

namespace MegaraidDashboard.Services

open Db Storcli

/-- `(event.after_json or {}).get(field)` -/
def afterGet (event : Event) (field : String) : Option Scalar := (event.afterJson.getD []).get field

/-- `(event.before_json or {}).get(field)` -/
def beforeGet (event : Event) (field : String) : Option Scalar := (event.beforeJson.getD []).get field

/-- `is_monitoring_outage` -/
def isMonitoringOutage (event : Event) : Bool :=
  event.category == .system && event.subject == .controller &&
    afterGet event "monitoring_outage" == some (.bool true)

variable [PyText]

/-- `incident_state` -/
def incidentState (event : Event) : Option String :=
  match afterGet event "state" with
  | some (.str state) => some (normalizedState state)
  | _ => none

/-- A value as part of an incident key: numbers keep only their name. -/
def keyValue : Scalar → Scalar
  | .bool value => .bool value
  | .str value => .str value
  | _ => .null

/-- `incident_key` -/
def incidentKey (event : Event) : List (String × Scalar) :=
  match incidentState event with
  | some state => [("state", .str state)]
  | none =>
    (((event.afterJson.getD []).filter fun entry => entry.1 != "serial_number").map fun entry =>
      (entry.1, keyValue entry.2)).insertionSort fun first second => first.1 ≤ second.1

end MegaraidDashboard.Services
