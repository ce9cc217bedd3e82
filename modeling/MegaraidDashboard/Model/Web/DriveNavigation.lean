import MegaraidDashboard.ToMathlib.ListQueries
import MegaraidDashboard.Model.Db.Models
import MegaraidDashboard.Model.Python.DateTime
import Mathlib.Data.Int.Order.Basic
import Mathlib.Data.Prod.Lex

/-! # From drive to drive

The page of a drive links to its neighbours in the order of the cage. A link is a path; the route reads the enclosure
and the slot back from it, and the page looks the drive up in the latest snapshot.
-/

namespace MegaraidDashboard.Web

open Db

/-- `_PHYSICAL_SLOT_BY_CONTROLLER_SLOT` -/
def physicalSlotByControllerSlot : List (ℤ × ℤ) :=
  [(4, 0), (5, 1), (6, 2), (7, 3), (0, 4), (1, 5), (2, 6), (3, 7)]

/-- `physical_slot_number` -/
def physicalSlotNumber (controllerSlot : ℤ) : ℤ :=
  (physicalSlotByControllerSlot.lookup controllerSlot).getD controllerSlot

/-- The enclosure and the slot in it. -/
def drivePosition (drive : PhysicalDriveSnapshot) : ℤ × ℤ := (drive.enclosureId, drive.slotId)

/-- `_find_drive` -/
def findDrive (drives : List PhysicalDriveSnapshot) (enclosureId slotId : ℤ) : Option PhysicalDriveSnapshot :=
  drives.find? fun drive => drivePosition drive == (enclosureId, slotId)

/-- The key of the sort in `_neighbor_drive_url`. -/
def cageKey (drive : PhysicalDriveSnapshot) : ℤ ×ₗ ℤ := toLex (drive.enclosureId, physicalSlotNumber drive.slotId)

def driveSlotRef (drive : PhysicalDriveSnapshot) : String :=
  toString drive.enclosureId ++ ":" ++ toString drive.slotId

/-- `_neighbor_drive_url` -/
def neighborDriveUrl (drives : List PhysicalDriveSnapshot) (current : PhysicalDriveSnapshot) (offset : ℤ) :
    Option String :=
  let sortedDrives := drives.orderBy cageKey
  match sortedDrives.findIdx? fun drive => drivePosition drive == drivePosition current with
  | none => none
  | some currentIndex =>
    let neighborIndex := currentIndex + offset
    if neighborIndex < 0 ∨ sortedDrives.length ≤ neighborIndex then none
    else sortedDrives[neighborIndex.toNat]?.map fun neighbor => "/drives/" ++ driveSlotRef neighbor

/-- `drive_detail_slot_ref`: the drive whose page is shown; no drive is the status 404. -/
def driveDetailSlotRef (drives : List PhysicalDriveSnapshot) (slotRef : String) : Option PhysicalDriveSnapshot := do
  let (enclosureText, slotText) ← Py.splitOnce slotRef ':'
  let enclosureId ← Py.parseInt enclosureText
  let slotId ← Py.parseInt slotText
  findDrive drives enclosureId slotId

/-- The two links of the page. -/
inductive NeighborLink where
  | previous
  | next
deriving DecidableEq, Repr

def NeighborLink.offset : NeighborLink → ℤ
  | previous => -1
  | next => 1

/-- A click on a link, which leads to the route `/drives/{slot_ref}`; the page without the link stays. -/
def followNeighbor (drives : List PhysicalDriveSnapshot) (current : PhysicalDriveSnapshot) (link : NeighborLink) :
    Option PhysicalDriveSnapshot :=
  match neighborDriveUrl drives current link.offset with
  | none => some current
  | some url => driveDetailSlotRef drives (Py.dropPrefix url "/drives/")

end MegaraidDashboard.Web
