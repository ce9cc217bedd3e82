import MegaraidDashboard.Model.Storcli.Inventory
import MegaraidDashboard.Model.Db.Database

/-! # Collecting a snapshot

`collect_storcli_snapshot` runs its commands one after the other. Of the raw responses the row keeps all, or only
the state of the operations and the observed position of every drive. The position is what the drive page shows.
-/

namespace MegaraidDashboard.Storcli.Inventory

open JsonText Db

/-! ## Dictionaries -/

/-- `fields[key] = value` -/
def setField (fields : Fields) (key : String) (value : Value) : Fields :=
  if fields.has key then fields.map fun field => if field.1 = key then (key, value) else field
  else fields ++ [(key, value)]

/-- `value.get(key)`; what is no dictionary has no `get`. -/
def getAttribute (key : String) : Value → Except InventoryError Value
  | .obj fields => .ok ((Fields.get fields key).getD (.scalar .null))
  | _ => .error .attributeError

/-- `value[0]` of a list -/
def firstItem : Value → Except InventoryError Value
  | .arr (first :: _) => .ok first
  | .arr [] => .error .indexError
  | .obj _ => .error .keyError
  | _ => .error .typeError

def intValue (n : ℤ) : Value := .scalar (.int n)

def optionValue : Option Value → Value := fun value => value.getD (.scalar .null)

/-! ## Retained positions -/

def driveKeyOf (enclosure slot : ℤ) : String := "Drive /c0/e" ++ toString enclosure ++ "/s" ++ toString slot

/-- The value of `EID:Slt`. -/
def eidSlot (enclosure slot : ℤ) : String := toString enclosure ++ ":" ++ toString slot

/-- `response[f"{key} - Detailed Information"][f"{key} Policies/Settings"].get("Drive position")` -/
def observedPosition (response : Value) (drive : PhysicalDrive) : Except InventoryError Value := do
  let key := driveKeyOf drive.enclosureId drive.slotId
  getAttribute "Drive position" (← item (policiesKey key) (← item (detailKey key) response))

/-- The retained identity of a drive. -/
def retainedSummary (drive : PhysicalDrive) : Value :=
  .arr [.obj [("EID:Slt", .str (eidSlot drive.enclosureId drive.slotId)), ("DID", intValue drive.deviceId)]]

/-- The retained serial and position of a drive. -/
def retainedDetail (drive : PhysicalDrive) (position : Value) : Value :=
  let key := driveKeyOf drive.enclosureId drive.slotId
  .obj [(attributesKey key, .obj [("SN", .str drive.serialNumber)]),
    (policiesKey key, .obj [("Drive position", position)])]

/-- The loop over the drives. -/
def retainPosition (response : Value) (positions : Fields) (drive : PhysicalDrive) : Except InventoryError Fields := do
  let key := driveKeyOf drive.enclosureId drive.slotId
  let position ← observedPosition response drive
  return setField (setField positions key (retainedSummary drive)) (detailKey key) (retainedDetail drive position)

/-- The payload of `physical_drive_positions`. -/
def positionsPayload (positions : Fields) : Value :=
  .obj [("Controllers", .arr [.obj [("Response Data", .obj positions)]])]

/-- `physical_drives_payload["Controllers"][0]["Response Data"]` -/
def physicalResponse (payload : Value) : Except InventoryError Value := do
  item "Response Data" (← firstItem (← item "Controllers" payload))

/-- `raw_payload["physical_drive_positions"]` -/
def physicalDrivePositions (payload : Value) (drives : List PhysicalDrive) : Except InventoryError Value := do
  let response ← physicalResponse payload
  return positionsPayload (← drives.foldlM (retainPosition response) [])

/-! ## The snapshot -/

/-- What `run_storcli` answers to each command of a poll. -/
structure Probes where
  controller : Except InventoryError Value
  virtualDrives : Except InventoryError Value
  physicalDrives : Except InventoryError Value
  cachevault : Except InventoryError Value
  bbu : Except InventoryError Value
  foreignConfig : Except InventoryError Value
  patrolRead : Except InventoryError Value
  consistencyCheck : Except InventoryError Value
  consistencyProgress : Except InventoryError Value

/-- `asdict` of the parsed state of the two operations. -/
structure OperationParsers where
  patrolRead : Value → Except InventoryError Value
  consistencyCheck : Value → Value → Except InventoryError Value

/-- `except StorcliError` with a value of its own. -/
def orElse {α : Type} (default : α) (answer : Except InventoryError α) : Except InventoryError α :=
  match answer with
  | .error error => if error.isStorcli then .ok default else .error error
  | .ok value => .ok value

/-- `foreign_config.model_dump(mode="json")` -/
def foreignConfigDump (config : ForeignConfig) : Value :=
  .obj [("present", .scalar (.bool config.present)), ("dg_count", intValue config.dgCount),
    ("drive_count", intValue config.driveCount),
    ("total_size_bytes", optionValue (config.totalSizeBytes.map intValue)),
    ("disk_groups", .arr (config.diskGroups.map fun group => .obj [("dg_id", intValue group.dgId),
      ("drive_count", intValue group.driveCount), ("size_bytes", optionValue (group.sizeBytes.map intValue))])),
    ("digest", .str config.digest)]

section Collecting

variable [PyText] [PyNumbers] [PyConversions] [Sha256]

/-- `ensure_command_succeeded`; the text of a failure, which the callers drop, is not shortened. -/
def ensureCommandSucceeded (payload : Value) : Except InventoryError Unit := do
  let controller ← ofForeign (firstControllerFields payload)
  match controller.get "Command Status" with
  | some (.obj status) =>
    match Fields.get status "Status" with
    | some (.str value) =>
      if Py.casefold (Py.strip value) = "failure" then .error (.ofForeign (.commandFailed (commandErrMsg status)))
      else ofForeign (ensureExplicitSuccess controller)
    | _ => ofForeign (ensureExplicitSuccess controller)
  | _ => ofForeign (ensureExplicitSuccess controller)

/-- A probe and its parser; a storcli error of either leaves no reading, and the payload is kept if it was read. -/
def optionalProbe {α : Type} (probe : Except InventoryError Value)
    (parse : Value → Except InventoryError (Option α)) : Except InventoryError (Option Value × Option α) := do
  match ← orElse none (some <$> probe) with
  | none => return (none, none)
  | some payload => return (some payload, ← orElse none (parse payload))

/-- `raw_payload["patrol_read"]` -/
def patrolReadState (probes : Probes) (parsers : OperationParsers) : Except InventoryError Value :=
  orElse (.scalar .null) do
    let patrol ← probes.patrolRead
    ensureCommandSucceeded patrol
    parsers.patrolRead patrol

/-- `raw_payload["consistency_check"]` -/
def consistencyCheckState (probes : Probes) (parsers : OperationParsers) : Except InventoryError Value :=
  orElse (.scalar .null) do
    let cc ← probes.consistencyCheck
    ensureCommandSucceeded cc
    let progress ← probes.consistencyProgress
    ensureCommandSucceeded progress
    parsers.consistencyCheck cc progress

/-- The required responses and what they were parsed to. -/
structure InventoryReading where
  controllerPayload : Value
  virtualDrivesPayload : Value
  physicalDrivesPayload : Value
  cachevaultPayload : Value
  controller : ControllerInfo
  virtualDrives : List VirtualDrive
  physicalDrives : List PhysicalDrive
  cachevault : Option CacheVault

/-- The required part of a poll, up to the comparison of the two CacheVault readings. -/
def collectInventory (probes : Probes) : Except InventoryError InventoryReading := do
  let controllerPayload ← probes.controller
  let virtualDrivesPayload ← probes.virtualDrives
  let physicalDrivesPayload ← probes.physicalDrives
  let controller ← parseControllerShowAll controllerPayload
  let virtualDrives ← parseVirtualDrives virtualDrivesPayload
  let physicalDrives ← parsePhysicalDrives physicalDrivesPayload
  validateCompleteInventory controllerPayload virtualDrivesPayload physicalDrivesPayload virtualDrives physicalDrives
  let cachevaultPayload ← probes.cachevault
  let cachevault ← parseCachevault cachevaultPayload
  if controller.cvPresent = cachevault.isSome then
    return { controllerPayload, virtualDrivesPayload, physicalDrivesPayload, cachevaultPayload, controller,
             virtualDrives, physicalDrives, cachevault }
  else parseError "CacheVault presence is unproven: controller/probe disagree"

/-- What the optional probes of a poll left. -/
structure OptionalReading where
  bbuPayload : Option Value
  foreignConfigPayload : Option Value
  foreignConfig : Option ForeignConfig

def collectOptional (probes : Probes) : Except InventoryError OptionalReading := do
  let (bbuPayload, _) ← optionalProbe probes.bbu parseBbu
  let (foreignConfigPayload, foreignConfig) ← optionalProbe probes.foreignConfig fun payload =>
    some <$> ofForeign (parseForeignConfig payload)
  return ⟨bbuPayload, foreignConfigPayload, foreignConfig⟩

def snapshotOf (reading : InventoryReading) (optional : OptionalReading) (now : ℤ) : StorcliSnapshot where
  controller := reading.controller
  virtualDrives := reading.virtualDrives
  physicalDrives := reading.physicalDrives
  cachevault := reading.cachevault
  foreignConfig := optional.foreignConfig
  capturedAt := now

/-- `raw_payload` -/
def rawPayload (reading : InventoryReading) (optional : OptionalReading) (positions patrolRead consistencyCheck : Value) :
    Fields :=
  [("controller", reading.controllerPayload), ("virtual_drives", reading.virtualDrivesPayload),
    ("physical_drives", reading.physicalDrivesPayload), ("cachevault", reading.cachevaultPayload),
    ("bbu", optionValue optional.bbuPayload), ("foreign_config", optionValue optional.foreignConfigPayload),
    ("foreign_config_state", optionValue (optional.foreignConfig.map foreignConfigDump)),
    ("physical_drive_positions", positions), ("patrol_read", patrolRead), ("consistency_check", consistencyCheck)]

/-- `collect_storcli_snapshot`; the clock gives `captured_at`. -/
def collectStorcliSnapshot (probes : Probes) (parsers : OperationParsers) (now : ℤ) :
    Except InventoryError (StorcliSnapshot × Fields) := do
  let reading ← collectInventory probes
  let optional ← collectOptional probes
  let positions ← physicalDrivePositions reading.physicalDrivesPayload reading.physicalDrives
  let patrolRead ← patrolReadState probes parsers
  let consistencyCheck ← consistencyCheckState probes parsers
  return (snapshotOf reading optional now, rawPayload reading optional positions patrolRead consistencyCheck)

end Collecting

/-! ## The stored row -/

/-- An entry that holds something. -/
def heldEntry (raw : Fields) (key : String) : Option (String × Value) :=
  match raw.get key with
  | none | some (.scalar .null) => none
  | some value => some (key, value)

/-- `operation_state` of `insert_snapshot` -/
def operationState (raw : Fields) : Fields :=
  ["patrol_read", "consistency_check", "physical_drive_positions", "foreign_config_state"].filterMap (heldEntry raw)

/-- `raw_json` of the stored row. -/
def rawJson (storeRaw : Bool) (raw : Fields) : Option Fields :=
  if storeRaw then some raw
  else if operationState raw = [] then none else some (operationState raw)

/-! ## The position that a drive page shows -/

/-- The text behind a word. -/
def afterWord (word : String) (chars : List Char) : Option (List Char) :=
  if word.toList.isPrefixOf chars then some (chars.drop word.toList.length) else none

section Position

variable [PyDigits] [PyNumbers]

/-- A run of at least one decimal digit. -/
def takeDigits (chars : List Char) : Option (String × List Char) :=
  match chars.takeWhile Py.isDecimal with
  | [] => none
  | digits => some (String.ofList digits, chars.dropWhile Py.isDecimal)

/-- `DriveGroup:(\d+),\s*Span:(\d+),\s*Row:(\d+)` -/
def drivePosition (text : String) : Option (String × String × String) := do
  let (group, rest) ← takeDigits (← afterWord "DriveGroup:" text.toList)
  let (span, rest) ← takeDigits (← afterWord "Span:" ((← afterWord "," rest).dropWhile Py.isSpace))
  let (row, rest) ← takeDigits (← afterWord "Row:" ((← afterWord "," rest).dropWhile Py.isSpace))
  if rest = [] then some (group, span, row) else none

/-- The text of an observed position, if its group is the drive's. -/
def positionText (diskGroupId : Option ℤ) : Value → Option String
  | .str text => do
    let (group, span, row) ← drivePosition text
    let dg ← PyNumbers.int group
    if some dg = diskGroupId then
      return " : ".intercalate [toString dg, toString (← PyNumbers.int span), toString (← PyNumbers.int row)]
    else none
  | _ => none

variable [PyConversions]

/-- `value == n` -/
def equalsInt (n : ℤ) : Value → Bool
  | .scalar (.int m) => m == n
  | .scalar (.bool value) => (if value then 1 else 0) == n
  | .scalar (.float value) => PyConversions.floatEq value n
  | _ => false

/-- The only item of `(summary,) = value`, if it is a dictionary. -/
def onlyRow : Value → Option Fields
  | .arr [.obj row] => some row
  | _ => none

/-- The only controller of a payload. -/
def onlyController (payload : Value) : Option Value :=
  match item "Controllers" payload with
  | .ok (.arr [controller]) => some controller
  | _ => none

def isText (expected : String) : Value → Bool
  | .str text => text == expected
  | _ => false

def strippedText : Value → Option String
  | .str text => some (Py.strip text)
  | _ => none

/-- What the payload shows for the drive; `none` is every exception and every disagreement. -/
def shownPosition (payload : Value) (drive : PhysicalDriveSnapshot) : Option String := do
  let response ← (item "Response Data" (← onlyController payload)).toOption
  let key := driveKeyOf drive.enclosureId drive.slotId
  let summary ← onlyRow (← (item key response).toOption)
  let detail ← (item (detailKey key) response).toOption
  let serial ← strippedText (← (item "SN" (← (item (attributesKey key) detail).toOption)).toOption)
  let position ← (item "Drive position" (← (item (policiesKey key) detail).toOption)).toOption
  let eid ← summary.get "EID:Slt"
  let did ← summary.get "DID"
  if serial = drive.serialNumber ∧ isText (eidSlot drive.enclosureId drive.slotId) eid = true ∧
      equalsInt drive.deviceId did = true then
    positionText drive.diskGroupId position
  else none

/-- `_dg_span_row_text` -/
def dgSpanRowText (drive : PhysicalDriveSnapshot) (raw : Option Fields) : String :=
  let fields := raw.getD []
  let payload := ((fields.get "physical_drive_positions").or (fields.get "physical_drives")).getD (.obj [])
  (shownPosition payload drive).getD "N/A"

end Position

end MegaraidDashboard.Storcli.Inventory
