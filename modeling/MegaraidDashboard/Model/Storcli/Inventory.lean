import MegaraidDashboard.Model.Storcli.Validation
import MegaraidDashboard.Model.Storcli.States
import Mathlib.Data.Prod.Lex
import Mathlib.Data.List.Dedup

/-! # Inventory parsers

Every parser of a poll wants a single controller that reports success. The detailed drives are then compared with
the counts and the identities that the controller itself reports.
-/

namespace MegaraidDashboard.Storcli.Inventory

open JsonText

/-! ## Access -/

/-- `value[key]` -/
def item (key : String) : Value → Except InventoryError Value
  | .obj fields =>
    match Fields.get fields key with
    | some value => .ok value
    | none => .error .keyError
  | _ => .error .typeError

/-- `_mapping` -/
def mapping : Value → Except InventoryError Fields
  | .obj fields => .ok fields
  | _ => .error .typeError

def ofForeign {α : Type} (answer : Except ForeignError α) : Except InventoryError α := answer.mapError .ofForeign

/-- `value == 0` -/
def isZero : Value → Bool
  | .scalar .null => false
  | .scalar value => !truthy (.scalar value)
  | _ => false

/-- `len(payload["Controllers"])` -/
def controllerCount : Value → ℕ
  | .obj payload =>
    match Fields.get payload "Controllers" with
    | some (.arr controllers) => controllers.length
    | _ => 0
  | _ => 0

/-- `_response_data` -/
def responseData (controller : Fields) : Except InventoryError Fields :=
  match (controller.get "Response Data").getD (.obj []) with
  | .obj response => .ok response
  | _ => parseError "Response Data is not a mapping"

/-- The classes of an `except` clause. -/
def oneOf (classes : List InventoryError) (error : InventoryError) : Bool := error ∈ classes

section Parsing

variable [PyText] [PyNumbers]

/-- `str(status.get("Status", "")).strip().casefold()` -/
def statusWord (status : Fields) : String := Py.casefold (Py.strip (((status.get "Status").map pyStr).getD ""))

/-- `_ensure_success` -/
def ensureSuccess (payload : Value) : Except InventoryError Fields := do
  let controller ← ofForeign (firstControllerFields payload)
  let status ← ofForeign (commandStatus controller)
  if statusWord status = "failure" then .error (.ofForeign (.commandFailed (commandErrMsg status)))
  else return controller

/-- `_ensure_inventory_success` -/
def ensureInventorySuccess (payload : Value) : Except InventoryError Fields :=
  rescue (oneOf [.typeError]) "storcli command status is malformed" do
    let controller ← ensureSuccess payload
    let status ← ofForeign (commandStatus controller)
    if statusWord status = "success" ∧ controllerCount payload = 1 ∧ (status.get "Controller").all isZero = true then
      return controller
    else parseError "storcli command success is unproven"

/-- The parsers of a complete response; the listed exceptions become a `StorcliParseError`. -/
def inventoryParser {α : Type} (classes : List InventoryError) (message : String)
    (parse : Fields → Except InventoryError α) (payload : Value) : Except InventoryError α := do
  let controller ← ensureInventorySuccess payload
  rescue (oneOf classes) message do
    parse (← responseData controller)

variable [PyConversions]

/-! ## The controller -/

/-- The controller of a response. -/
def controllerInfoOf (response : Fields) : Except InventoryError ControllerInfo := do
  let basics ← mapping (← item "Basics" (.obj response))
  let version ← mapping (← item "Version" (.obj response))
  let hwcfg ← mapping (← item "HwCfg" (.obj response))
  validateControllerInfo <|
    [("Alarm", ← item "Alarm" (.obj hwcfg)),
      ("Cachevault_Info", (response.get "Cachevault_Info").getD (.arr [])),
      ("BBU", ← item "BBU" (.obj hwcfg)),
      ("ROC temperature(Degree Celsius)", (hwcfg.get "ROC temperature(Degree Celsius)").getD (.scalar .null))] ++
    version ++ basics

/-- `parse_controller_show_all` -/
def parseControllerShowAll : Value → Except InventoryError ControllerInfo :=
  inventoryParser [.keyError, .typeError, .validationError]
    "controller show all payload does not match expected schema" controllerInfoOf

/-! ## Virtual drives -/

/-- The rows of a virtual drive, told by their columns. -/
def isVirtualDriveRow : Value → Bool
  | .obj row => Fields.has row "DG/VD" && Fields.has row "TYPE" && Fields.has row "Size"
  | _ => false

/-- The rows of `VD LIST`, or of all the lists of the response. -/
def virtualDriveRows (response : Fields) : List Value :=
  match response.get "VD LIST" with
  | some (.arr items) => items
  | _ => response.flatMap fun (_, value) =>
    match value with
    | .arr items => items.filter isVirtualDriveRow
    | _ => []

/-- The virtual drives of a response, in the order of their numbers. -/
def virtualDrivesOf (response : Fields) : Except InventoryError (List VirtualDrive) := do
  let virtualDrives ← (virtualDriveRows response).mapM validateVirtualDrive
  return virtualDrives.orderBy (·.vdId)

/-- `parse_virtual_drives` -/
def parseVirtualDrives : Value → Except InventoryError (List VirtualDrive) :=
  inventoryParser [.typeError, .validationError] "virtual drive payload does not match expected schema" virtualDrivesOf

/-! ## Physical drives -/

def detailKey (driveKey : String) : String := driveKey ++ " - Detailed Information"

def attributesKey (driveKey : String) : String := driveKey ++ " Device attributes"

def policiesKey (driveKey : String) : String := driveKey ++ " Policies/Settings"

/-- The only row of a drive summary. -/
def onlySummary : String × Value → Except InventoryError (String × Value)
  | (key, .arr [row]) => .ok (key, row)
  | _ => .error .typeError

/-- `_drive_rows` -/
def driveRows (response : Fields) : Except InventoryError (List (String × Value)) :=
  (response.filter fun field => isDriveKey field.1).mapM onlySummary

/-- The first row of the port information. -/
def firstPort : Value → Except InventoryError Fields
  | .arr (port :: _) => mapping port
  | _ => .error .typeError

/-- `_parse_physical_drive` -/
def parsePhysicalDrive (response : Fields) (driveKey : String) (summary : Value) :
    Except InventoryError PhysicalDrive := do
  let detail ← mapping (← item (detailKey driveKey) (.obj response))
  let state ← mapping (← item (driveKey ++ " State") (.obj detail))
  let attributes ← mapping (← item (attributesKey driveKey) (.obj detail))
  let policies ← mapping (← item (policiesKey driveKey) (.obj detail))
  let port ← firstPort (← item "Port Information" (.obj policies))
  let summary ← mapping summary
  validatePhysicalDrive <|
    [("Model", ((attributes.get "Model Number").or (summary.get "Model")).getD (.scalar .null)),
      ("SN", ← item "SN" (.obj attributes)),
      ("Firmware Revision", ← item "Firmware Revision" (.obj attributes)),
      ("SAS address", ← item "SAS address" (.obj port))] ++
    state ++ summary

/-- The enclosure and the slot of a drive, enclosures first. -/
def location (drive : PhysicalDrive) : ℤ ×ₗ ℤ := toLex (drive.enclosureId, drive.slotId)

/-- The physical drives of a response, in the order of their slots. -/
def physicalDrivesOf (response : Fields) : Except InventoryError (List PhysicalDrive) := do
  let physicalDrives ← (← driveRows response).mapM fun row => parsePhysicalDrive response row.1 row.2
  return physicalDrives.orderBy location

/-- `parse_physical_drives` -/
def parsePhysicalDrives : Value → Except InventoryError (List PhysicalDrive) :=
  inventoryParser [.keyError, .typeError, .indexError, .validationError]
    "physical drive payload does not match expected schema" physicalDrivesOf

/-! ## CacheVault and BBU -/

/-- `_property_lists_to_mapping`; of two entries with one name the last one stands first. -/
def propertyListsToMapping (response : Fields) : Fields :=
  (response.flatMap fun (_, value) =>
    match value with
    | .arr items => items.filterMap fun
      | .obj entry => (Fields.get entry "Property").bind fun property =>
        (Fields.get entry "Value").map fun value => (pyStr property, value)
      | _ => none
    | _ => []).reverse

/-- `data[key] = data[other]` where `other` is there. -/
def copyField (key other : String) (data : Fields) : Fields :=
  match data.get other with
  | some value => (key, value) :: data
  | none => data

/-- The CacheVault of a response; an empty list reports its absence. -/
def cachevaultOf (response : Fields) : Except InventoryError (Option CacheVault) :=
  match response.get "Cachevault_Info", propertyListsToMapping response with
  | some (.arr []), _ => .ok none
  | some (.arr (first :: _)), [] => do
    let data ← mapping first
    some <$> validateCacheVault (copyField "Temperature" "Temp" (copyField "Type" "Model" data))
  | _, data => some <$> validateCacheVault data

/-- `parse_cachevault` -/
def parseCachevault : Value → Except InventoryError (Option CacheVault) :=
  inventoryParser [.keyError, .typeError, .indexError, .validationError]
    "cachevault payload does not match expected schema" cachevaultOf

/-- `_is_unsupported_hardware_error` -/
def isUnsupportedHardwareError (errMsg : String) : Bool :=
  ["use /cx/cv", "use /cx/bbu"].any fun marker => Py.contains (Py.casefold errMsg) marker

/-- `parse_bbu` -/
def parseBbu (payload : Value) : Except InventoryError (Option Fields) := do
  let controller ← ofForeign (firstControllerFields payload)
  let status ← ofForeign (commandStatus controller)
  if statusWord status = "failure" then
    if isUnsupportedHardwareError (commandErrMsg status) then return none
    else .error (.ofForeign (.commandFailed (commandErrMsg status)))
  else
    rescue (oneOf [.typeError, .validationError]) "bbu payload does not match expected schema"
      (some <$> responseData controller)

/-! ## Completeness -/

/-- A count that is a plain integer. -/
def plainInt : Value → Option ℤ
  | .scalar (.int n) => some n
  | _ => none

/-- `int(value)` -/
def intOf (value : Value) : Except InventoryError ℤ :=
  match isinstanceInt value, value with
  | some n, _ => .ok n
  | none, .str text => intOfText text
  | none, .scalar scalar => intOfFloat scalar
  | none, _ => .error .typeError

/-- What the controller reports about one drive. -/
structure DriveSummary where
  enclosureId : ℤ
  slotId : ℤ
  deviceId : ℤ
  state : String
deriving DecidableEq, Repr

/-- The sides of `str(value).split(":")`, which must be two. -/
def sidesOf (value : Value) : Except InventoryError (String × String) :=
  match Py.split (pyStr value) ':' with
  | [enclosure, slot] => .ok (enclosure, slot)
  | _ => .error .valueError

/-- A row of `PD LIST`. -/
def driveSummary (row : Value) : Except InventoryError DriveSummary := do
  let (enclosure, slot) ← sidesOf (← item "EID:Slt" (.obj (← mapping row)))
  match ← item "State" row with
  | .str state =>
    return ⟨← intOfText enclosure, ← intOfText slot, ← intOf (← item "DID" row), normalizedState state⟩
  | _ => .error .typeError

/-- What the drive itself reports of the same. -/
def summaryOf (drive : PhysicalDrive) : DriveSummary :=
  ⟨drive.enclosureId, drive.slotId, drive.deviceId, normalizedState drive.state⟩

def virtualSummaryOf (drive : VirtualDrive) : ℤ × String := (drive.vdId, normalizedState drive.state)

/-- The list under a name; a missing one is empty. -/
def listOrEmpty : Option Value → Except InventoryError (List Value)
  | none => .ok []
  | some (.arr items) => .ok items
  | some _ => .error .valueError

/-- The counts of the controller are those of the detailed lists. -/
def CountsAgree (response : Fields) (virtualDrives : List VirtualDrive) (physicalDrives : List PhysicalDrive) : Prop :=
  (response.get "Virtual Drives").bind plainInt = some (virtualDrives.length : ℤ) ∧
    (response.get "Physical Drives").bind plainInt = some (physicalDrives.length : ℤ)

instance (response : Fields) (virtualDrives : List VirtualDrive) (physicalDrives : List PhysicalDrive) :
    Decidable (CountsAgree response virtualDrives physicalDrives) := inferInstanceAs (Decidable (_ ∧ _))

/-- The identities and the states agree, and no two drives share one. -/
def IdentitiesAgree (virtualDrives summaryVds : List VirtualDrive) (physicalDrives : List PhysicalDrive)
    (summaryPds : List DriveSummary) : Prop :=
  ((virtualDrives.map (·.vdId)).dedup.length = virtualDrives.length ∧
    (physicalDrives.map fun drive => (drive.enclosureId, drive.slotId)).dedup.length = physicalDrives.length) ∧
    ((virtualDrives.map virtualSummaryOf).isPerm (summaryVds.map virtualSummaryOf) = true ∧
      (physicalDrives.map summaryOf).isPerm summaryPds = true) ∧
    physicalDrives.all (·.serialNumber != "") = true

instance (virtualDrives summaryVds : List VirtualDrive) (physicalDrives : List PhysicalDrive)
    (summaryPds : List DriveSummary) : Decidable (IdentitiesAgree virtualDrives summaryVds physicalDrives summaryPds) :=
  inferInstanceAs (Decidable ((_ ∧ _) ∧ (_ ∧ _) ∧ _))

/-- The body of `validate_complete_inventory`; a missing count is a `KeyError`. -/
def completeInventory (controllerPayload virtualPayload physicalPayload : Value) (virtualDrives : List VirtualDrive)
    (physicalDrives : List PhysicalDrive) : Except InventoryError Unit := do
  let controller ← ensureInventorySuccess controllerPayload
  let _ ← ensureInventorySuccess virtualPayload
  let _ ← ensureInventorySuccess physicalPayload
  let response ← responseData controller
  let _ ← item "Virtual Drives" (.obj response)
  let _ ← item "Physical Drives" (.obj response)
  if CountsAgree response virtualDrives physicalDrives then
    let summaryVds ← parseVirtualDrives controllerPayload
    let summaryPds ← (← listOrEmpty (response.get "PD LIST")).mapM driveSummary
    if IdentitiesAgree virtualDrives summaryVds physicalDrives summaryPds then
      match ← item "Cachevault_Info" (.obj response) with
      | .arr _ => return ()
      | _ => .error .valueError
    else .error .valueError
  else .error .valueError

/-- `validate_complete_inventory` -/
def validateCompleteInventory (controllerPayload virtualPayload physicalPayload : Value)
    (virtualDrives : List VirtualDrive) (physicalDrives : List PhysicalDrive) : Except InventoryError Unit :=
  rescue (oneOf [.keyError, .typeError, .valueError, .validationError]) "inventory completeness is unproven"
    (completeInventory controllerPayload virtualPayload physicalPayload virtualDrives physicalDrives)

end Parsing

end MegaraidDashboard.Storcli.Inventory
