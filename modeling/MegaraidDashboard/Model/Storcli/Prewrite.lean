import MegaraidDashboard.Model.Storcli.Models
import MegaraidDashboard.Model.Storcli.Parser

/-! # Safety evidence before a foreign configuration is imported or cleared

The check reads the foreign configuration, the rebuild row of every drive, the controller and the foreign
configuration again. What it reads of the controller, of the foreign configuration and of an estimated time is
left to their parsers, which are parameters: every statement holds for all of them.
-/

namespace MegaraidDashboard.Storcli

/-- The parsers whose results the check compares. -/
structure PrewriteParsers where
  parseForeignConfig : Json → Except PyError ForeignConfig
  parseControllerShowAll : Json → Except PyError ControllerInfo
  parseMinutes : Option Json → Except PyError (Option ℤ)

/-! ## Rebuild rows -/

section Rebuild

variable [PyText] [PyDigits]

/-- `_single_controller_response_data(payload, allow_list=True)` -/
def singleControllerResponseData (fields : List (String × Json)) : Except PyError Json :=
  match getField fields "Controllers" with
  | some (.arr [.obj controller]) =>
    let failed := match getField controller "Command Status" with
      | some (.obj status) => match getField status "Status" with
        | some (.str value) => Py.lower value == "failure"
        | _ => false
      | _ => false
    if failed then raise .commandFailed
    else match getField controller "Response Data" with
      | some (.obj response) => .ok (.obj response)
      | some (.arr rows) => .ok (.arr rows)
      | _ => raise .parseError
  | _ => raise .parseError

/-- `/c0/e\d+/s\d+` -/
def isDrivePath (path : String) : Bool :=
  match Py.splitChars '/' path.toList with
  | [[], controller, 'e' :: enclosure, 's' :: slot] =>
    controller == "c0".toList && Py.allDecimal enclosure && Py.allDecimal slot
  | _ => false

/-- The drive of a table named `Drive /c0/e\d+/s\d+ - Rebuild Progress`. -/
def rebuildTableDrive (name : String) : Option String :=
  let head := "Drive "
  let tail := " - Rebuild Progress"
  let middle := String.ofList ((name.toList.drop head.toList.length).take
    (name.toList.length - head.toList.length - tail.toList.length))
  if head ++ middle ++ tail = name ∧ isDrivePath middle = true then some middle else none

/-- The rows of the progress table, and the drive that its name gives. -/
def rebuildRows : Json → Except PyError (Option String × Json)
  | .obj [(name, rows)] =>
    match rebuildTableDrive name with
    | some drive => .ok (some drive, rows)
    | none => raise .parseError
  | .arr rows => .ok (none, .arr rows)
  | _ => raise .parseError

/-- The drive that the row or its table names. -/
def rebuildDriveId (row : List (String × Json)) (tableDrive : Option String) : Except PyError (Option String) :=
  match getField row "Drive-ID" with
  | none => .ok tableDrive
  | some (.str driveId) =>
    if isDrivePath driveId = false then raise .parseError
    else if tableDrive.any (· != driveId) then raise .parseError
    else .ok (some driveId)
  | some _ => raise .parseError

/-- `\d{1,3}%?` up to 100. -/
def progressText (text : String) : Option ℕ :=
  let digits := match text.toList.reverse with
    | '%' :: rest => rest.reverse
    | _ => text.toList
  if Py.allDecimal digits = true ∧ digits.length ≤ 3 ∧ Py.decimalValue digits ≤ 100 then some (Py.decimalValue digits)
  else none

/-- The `percent` of a row; a boolean, a float, a list and an object never print as a progress. -/
def rebuildPercent : Option Json → Except PyError (Option ℕ)
  | none => .ok none
  | some .null => .ok none
  | some (.str text) =>
    if text ∈ ["", "-", "N/A"] then .ok none
    else match progressText text with
      | some percent => .ok (some percent)
      | none => raise .parseError
  | some (.int value) => if 0 ≤ value ∧ value ≤ 100 then .ok (some value.toNat) else raise .parseError
  | some _ => raise .parseError

/-- `row.get("Status", row.get("State"))` -/
def explicitState (row : List (String × Json)) : Option Json := (getField row "Status").or (getField row "State")

/-- `_normalize_rebuild_state` -/
def normalizeRebuildState (rawState : String) (percent : Option ℕ) : String :=
  let lowered := Py.lower (Py.strip rawState)
  if Py.contains lowered "not" || Py.contains lowered "none" || Py.contains lowered "idle" then "Not in progress"
  else if ["fail", "abort", "stop"].any (Py.contains lowered) then "Unknown"
  else if lowered ∈ ["complete", "completed"] ∧ percent = some 100 then "Complete"
  else if ["progress", "rebuild", "rbld", "active"].any (Py.contains lowered) then "In progress"
  else if percent.any fun value => decide (0 < value) && decide (value < 100) then "In progress"
  else "Unknown"

structure RebuildStatus where
  percentComplete : Option ℕ
  state : String
  timeRemainingMinutes : Option ℤ
deriving DecidableEq, Repr

/-- `parse_rebuild_status` -/
def parseRebuildStatus (parsers : PrewriteParsers) (payload : Json) (requestedDrive : Option String) :
    Except PyError RebuildStatus := do
  let fields ← mapping payload
  let response ← singleControllerResponseData fields
  ensureCommandSucceeded payload
  let (tableDrive, rows) ← rebuildRows response
  match rows with
  | .arr [.obj row] =>
    let driveId ← rebuildDriveId row tableDrive
    if requestedDrive.isSome ∧ driveId ≠ requestedDrive then raise .parseError
    else
      let percent ← rebuildPercent (getField row "Progress%")
      let state ← match explicitState row with
        | none => .ok ""
        | some .null => .ok ""
        | some (.str state) => .ok state
        | some _ => raise .parseError
      if percent = none ∧ state = "" then raise .parseError
      else
        let minutes ← parsers.parseMinutes (getField row "Estimated Time Left")
        pure ⟨percent, normalizeRebuildState state percent, minutes⟩
  | _ => raise .parseError

/-- The values of `_IdleRebuildProof.status`. -/
def idleValues : List String := ["not in progress", "idle", "none", "complete", "completed"]

def isIdleValue : Json → Bool
  | .str value => Py.casefold (Py.strip value) ∈ idleValues
  | _ => false

/-- `_IdleRebuildProof.model_validate` -/
def idleRebuildProof (row : List (String × Json)) : Except PyError Unit :=
  match explicitState row with
  | some value => if isIdleValue value then .ok () else .error .validationError
  | none => .error .validationError

end Rebuild

/-! ## Inventory and foreign configuration -/

/-- `_ReadResponse.model_validate` -/
def readResponse (payload : Json) : Except PyError (List (String × Json)) :=
  match payload with
  | .obj fields => match getField fields "Controllers" with
    | some (.arr [.obj controller]) => match getField controller "Command Status" with
      | some (.obj status) => match getField status "Controller", getField status "Status" with
        | some (.int 0), some (.str "Success") => .ok controller
        | _, _ => .error .validationError
      | _ => .error .validationError
    | _ => .error .validationError
  | _ => .error .validationError

/-- `_Drive` -/
structure InventoryDrive where
  /-- The slot of `252:[0-7]`. -/
  slot : Fin 8
  deviceId : ℕ
  state : String
deriving DecidableEq, Repr

def InventoryDrive.location (drive : InventoryDrive) : String := "252:" ++ toString drive.slot.val

/-- The literals of `_Drive.state`. -/
def driveStates : List String := ["Onln", "UGood", "UBad", "Offln", "Failed", "Rbld", "DHS", "GHS", "Msng", "JBOD"]

/-- `_Drive.model_validate` -/
def InventoryDrive.validate : Json → Except PyError InventoryDrive
  | .obj fields =>
    match getField fields "EID:Slt", getField fields "DID", getField fields "State" with
    | some (.str location), some (.int deviceId), some (.str state) =>
      match (List.finRange 8).find? fun slot => location == "252:" ++ toString slot.val with
      | some slot =>
        if 0 ≤ deviceId ∧ state ∈ driveStates then .ok ⟨slot, deviceId.toNat, state⟩ else .error .validationError
      | none => .error .validationError
    | _, _, _ => .error .validationError
  | _ => .error .validationError

/-- The members of `PD LIST`. -/
def inventoryDrives : List Json → Except PyError (List InventoryDrive)
  | [] => .ok []
  | first :: rest => do
    let drive ← InventoryDrive.validate first
    let drives ← inventoryDrives rest
    pure (drive :: drives)

/-- `_physical_inventory`, by its drives. -/
def physicalInventory (identity : Json) : Except PyError (List InventoryDrive) := do
  let controller ← readResponse identity
  let data ← item controller "Response Data"
  match data with
  | .obj fields => match getField fields "Physical Drives", getField fields "PD LIST" with
    | some (.int count), some (.arr rows) => do
      let drives ← inventoryDrives rows
      if count < 1 ∨ drives = [] then .error .validationError
      else if count ≠ drives.length ∨ (drives.map (·.slot)).dedup.length ≠ drives.length ∨
          (drives.map (·.deviceId)).dedup.length ≠ drives.length then .error .valueError
      else pure drives
    | _, _ => .error .validationError
  | _ => .error .validationError

/-- What the check raises inside: its own refusal or an exception. -/
inductive SafetyError where
  /-- `_UnprovenSafetyError` -/
  | unproven (detail : String)
  | python (error : PyError)
deriving DecidableEq, Repr

/-- A call that raises no refusal of its own. -/
def python {α : Type} (answer : Except PyError α) : Except SafetyError α := answer.mapError .python

/-- `_foreign_evidence` -/
def foreignEvidence (parsers : PrewriteParsers) (payload : Json) (expectedDigest : String) : Except SafetyError Unit := do
  let _ ← python (readResponse payload)
  let config ← python (parsers.parseForeignConfig payload)
  if config.present = false ∨ config.digest ≠ expectedDigest then
    .error (.unproven "foreign configuration changed; reload and confirm its current digest")
  else pure ()

/-! ## The check -/

section Check

variable [PyText] [PyDigits]

/-- The row whose fields `_IdleRebuildProof` reads. -/
def rebuildRow (controller : List (String × Json)) : Except PyError (List (String × Json)) := do
  let data ← item controller "Response Data"
  match data with
  | .arr (.obj row :: _) => .ok row
  | .obj ((_, .arr (.obj row :: _)) :: _) => .ok row
  | _ => .error .typeError

def drivePath (drive : InventoryDrive) : String := "/c0/e252/s" ++ toString drive.slot.val

/-- The loop over the drives; the reads of a check are numbered. -/
def checkRebuilds (parsers : PrewriteParsers) (read : ℕ → List String → Except PyError Json) :
    ℕ → List InventoryDrive → Except SafetyError Unit
  | _, [] => .ok ()
  | call, drive :: rest =>
    if drive.state = "Rbld" then .error (.unproven ("rebuild active at " ++ drive.location))
    else do
      let payload ← python (read call [drivePath drive, "show", "rebuild", "J"])
      let controller ← python (readResponse payload)
      let status ← python (parseRebuildStatus parsers payload (some (drivePath drive)))
      if status.state ∉ ["Not in progress", "Complete"] then
        .error (.unproven ("rebuild " ++ status.state ++ " at " ++ drive.location))
      else do
        let row ← python (rebuildRow controller)
        python (idleRebuildProof row)
        checkRebuilds parsers read (call + 1) rest

/-- The fields of `CommandPolicy` that the check reads. -/
structure ControllerPolicy where
  controllerSerial : String

/-- The body of the `try` statement. -/
def foreignSafetyBody (parsers : PrewriteParsers) (identity : Json) (policy : ControllerPolicy)
    (read : ℕ → List String → Except PyError Json) (expectedDigest : String) : Except SafetyError Unit := do
  let inventory ← python (physicalInventory identity)
  let first ← python (read 0 ["/c0/fall", "show", "all", "J"])
  foreignEvidence parsers first expectedDigest
  checkRebuilds parsers read 1 inventory
  let current ← python (read (inventory.length + 1) ["/c0", "show", "all", "J"])
  let controller ← python (parsers.parseControllerShowAll current)
  if controller.serialNumber ≠ policy.controllerSerial ∨ controller.modelName ≠ "LSI MegaRAID SAS 9270CV-8i" then
    .error (.unproven "controller identity changed during safety reads")
  else do
    let latest ← python (physicalInventory current)
    if ¬(inventory ⊆ latest ∧ latest ⊆ inventory) then
      .error (.unproven "physical inventory changed during safety reads")
    else do
      let foreign ← python (read (inventory.length + 2) ["/c0/fall", "show", "all", "J"])
      foreignEvidence parsers foreign expectedDigest

/-- The `except` clauses: a refusal, a validation error, a value error and a storcli error are refusals; every other
exception leaves the check. -/
def refuseUnproven : SafetyError → PyError
  | .unproven _ => .storcli ⟨.commandFailed, none⟩
  | .python .validationError => .storcli ⟨.commandFailed, none⟩
  | .python .valueError => .storcli ⟨.commandFailed, none⟩
  | .python (.storcli _) => .storcli ⟨.commandFailed, none⟩
  | .python error => error

/-- `check_foreign_safety`; a confirmation that is missing or empty is refused at once. -/
def checkForeignSafety (parsers : PrewriteParsers) (identity : Json) (policy : ControllerPolicy)
    (read : ℕ → List String → Except PyError Json) (expectedDigest : Option String) : Except PyError Unit :=
  match expectedDigest with
  | none => raise .commandFailed
  | some expectedDigest =>
    if expectedDigest = "" then raise .commandFailed
    else (foreignSafetyBody parsers identity policy read expectedDigest).mapError refuseUnproven

end Check

end MegaraidDashboard.Storcli
