import MegaraidDashboard.Model.Services.Scheduler
import MegaraidDashboard.Model.Web.ReplacementAudit

/-! # Rebuild markers

A request for the rebuild status records, once for each replacement cycle of a slot, that it saw the
rebuild in progress and that it saw it complete. The progress marker shares the category `system`
with the collection events.
-/

namespace MegaraidDashboard.Services

open Db

/-- `RebuildStatus` without the remaining time. -/
structure RebuildStatus where
  percentComplete : Option ℤ
  state : String
deriving DecidableEq, Repr

/-- The three `LIKE` patterns of a successful insert in the slot. -/
def isSuccessfulInsert (enclosureId slotId : ℤ) (event : Event) : Bool :=
  let summary := Web.likeText event.summary
  event.category == .operatorAction &&
    Py.startsWith summary s!"replace step insert {Web.slotToken enclosureId slotId} " &&
    Py.endsWith summary " succeeded" && !Py.contains summary " failed"

/-- `_load_replacement_cycle_marker_for_slot` -/
def replacementCycleMarker (db : Database) (enclosureId slotId : ℤ) : Option Event :=
  (db.events.filter (isSuccessfulInsert enclosureId slotId)).latest? (·.occurredAt)

/-- Later than the marker, by time and then by identifier. -/
def afterMarker (marker : Option Event) (event : Event) : Bool :=
  marker.all fun marker => decide (marker.occurredAt < event.occurredAt) ||
    (event.occurredAt == marker.occurredAt && decide (marker.id < event.id))

def rebuildProgressSummary (enclosureId slotId : ℤ) : String :=
  s!"rebuild progress observed {Web.slotToken enclosureId slotId}"

def rebuildCompleteSummary (enclosureId slotId : ℤ) : String :=
  s!"rebuild complete {Web.slotToken enclosureId slotId}"

/-- Whether the current cycle of the slot has a row with this category and summary; the loaders
`_load_rebuild_progress_marker_for_slot` and `_load_rebuild_complete_operator_action_for_slot` differ
in these two only. -/
def markerRecorded (db : Database) (enclosureId slotId : ℤ) (category : Category) (summary : String) : Bool :=
  db.events.any fun event => event.category == category && event.summary == summary &&
    afterMarker (replacementCycleMarker db enclosureId slotId) event

/-- The condition of `drive_rebuild_status` for the progress marker. -/
def RebuildStatus.inProgress (status : RebuildStatus) : Bool :=
  (status.percentComplete.any fun percent => decide (0 ≤ percent) && decide (percent < 100)) &&
    status.state == "In progress"

/-- The condition of `drive_rebuild_status` for the complete marker. -/
def RebuildStatus.complete (status : RebuildStatus) : Bool :=
  status.percentComplete == some 100 && status.state == "Complete"

def rebuildProgressEvent (enclosureId slotId : ℤ) (status : RebuildStatus) : DetectedEvent where
  severity := .info
  category := .system
  subject := .controller
  summary := rebuildProgressSummary enclosureId slotId
  before := none
  after := some [("percent_complete", .ofInt? status.percentComplete), ("state", .str status.state)]

variable (clock : ℕ → ℤ)

/-- `_record_rebuild_progress_observed_once_sync` -/
def World.recordRebuildProgressObservedOnce (world : World) (enclosureId slotId : ℤ)
    (status : RebuildStatus) : World :=
  if markerRecorded world.db enclosureId slotId .system (rebuildProgressSummary enclosureId slotId) then world
  else world.record clock (rebuildProgressEvent enclosureId slotId status)

/-- `_record_rebuild_complete_once_sync` -/
def World.recordRebuildCompleteOnce (world : World) (enclosureId slotId : ℤ) (username : String) : World :=
  if markerRecorded world.db enclosureId slotId .operatorAction (rebuildCompleteSummary enclosureId slotId)
  then world
  else world.recordOperatorAction clock username (rebuildCompleteSummary enclosureId slotId)

/-- The database side of `drive_rebuild_status` for an observed status. -/
def World.rebuildStatus (world : World) (enclosureId slotId : ℤ) (status : RebuildStatus)
    (username : String) : World :=
  let world := if status.inProgress then
    world.recordRebuildProgressObservedOnce clock enclosureId slotId status else world
  if status.complete then world.recordRebuildCompleteOnce clock enclosureId slotId username else world

/-! ## Cycles of a slot -/

/-- A `replace/insert` request that has succeeded. -/
structure SucceededInsert where
  enclosureId : ℕ
  slotId : ℕ
  serialNumber : String
  dg : ℕ
  array : ℕ
  row : ℕ
  username : String

/-- The message of `_record_insert_operator_action_sync` with the outcome `succeeded`. -/
def SucceededInsert.message (insert : SucceededInsert) : String :=
  Web.insertMessage insert.enclosureId insert.slotId insert.serialNumber insert.dg insert.array insert.row "succeeded"

/-- One transaction on the audit log. -/
inductive CycleStep where
  | insert (insert : SucceededInsert)
  | status (enclosureId slotId : ℕ) (status : RebuildStatus) (username : String)

def cycleStep (world : World) : CycleStep → World
  | .insert insert => world.recordOperatorAction clock insert.username insert.message
  | .status enclosureId slotId status username => world.rebuildStatus clock enclosureId slotId status username

end MegaraidDashboard.Services
