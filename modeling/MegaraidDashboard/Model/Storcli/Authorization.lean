import MegaraidDashboard.Model.Storcli.Policy
import MegaraidDashboard.Model.Storcli.Prewrite
import MegaraidDashboard.Model.Storcli.Runner
import MegaraidDashboard.Model.Storcli.States

/-! # Authorisation of a write at the runner

A call of the runner loads the policy file three times: before the preflight, in the preflight, which asks the policy
about the command and reads the controller, and after it, where the content is compared with that of the first load.
The file may change between two loads, so every load is an input of its own.
-/

namespace MegaraidDashboard.Storcli

variable [PyText] [PyDigits]

/-! ## The approved topology -/

/-- `\d+/\d+` -/
def isVdIdentity (identity : String) : Bool :=
  match Py.splitChars '/' identity.toList with
  | [group, number] => Py.allDecimal group && Py.allDecimal number
  | _ => false

/-- `_VD` -/
def vdIdentity : Json → Option String
  | .obj fields =>
    match getField fields "DG/VD" with
    | some (.str identity) => if isVdIdentity identity then some identity else none
    | _ => none
  | _ => none

/-- `_VDInventory`: the count and the identities. -/
def vdInventory (data : List (String × Json)) : Option (ℤ × List String) :=
  match getField data "Virtual Drives", getField data "VD LIST" with
  | some (.int count), some (.arr rows) =>
    if count < 0 then none else (rows.mapM vdIdentity).map fun identities => (count, identities)
  | _, _ => none

/-- `int | Literal["-"]`, where the dash is no number. -/
def intOrDash : Option Json → Option (Option ℤ)
  | some (.int value) => some (some value)
  | some (.str text) => if text = "-" then some none else none
  | _ => none

/-- `_GroupRow` -/
structure GroupRow where
  group : Option ℤ
  array : Option ℤ
  row : Option ℤ
deriving DecidableEq, Repr

/-- `_GroupRow.model_validate` -/
def GroupRow.validate : Json → Option GroupRow
  | .obj fields => do
    let group ← intOrDash (getField fields "DG")
    let array ← intOrDash (getField fields "Arr")
    let row ← intOrDash (getField fields "Row")
    pure ⟨group, array, row⟩
  | _ => none

/-- `_GroupInventory`: the count and the rows. -/
def groupInventory (data : List (String × Json)) : Option (ℤ × List GroupRow) :=
  match getField data "Drive Groups", getField data "TOPOLOGY" with
  | some (.int count), some (.arr rows) =>
    if count < 0 then none else (rows.mapM GroupRow.validate).map fun rows => (count, rows)
  | _, _ => none

/-- `args[1:3]` -/
def actionOf (args : List String) : List String := (args.drop 1).take 2

/-- The commands that need the approved virtual drive. -/
def needsVirtualDrive (args : List String) : Bool :=
  Py.startsWith (args.headD "") "/c0/v" || (args[2]?).any (Py.startsWith · "cc=") || args[1]? == some "insert" ||
    [["set", "offline"], ["set", "missing"]].contains (actionOf args)

/-- The approved virtual drive is there; a command that names no virtual drive needs it to be the only one. -/
def virtualDriveApproved (args : List String) (data : List (String × Json)) (policy : PolicyContent) : Bool :=
  match vdInventory data with
  | none => false
  | some (count, identities) =>
    let perVdStart := args.head? == some ("/c0/v" ++ toString policy.virtualDrive) && actionOf args == ["start", "cc"]
    count == identities.length && decide identities.Nodup &&
      identities.contains (toString policy.diskGroup ++ "/" ++ toString policy.virtualDrive) &&
      (perVdStart || identities.length == 1)

/-- The approved disk group is there; its header row names neither an array nor a row. -/
def diskGroupApproved (data : List (String × Json)) (policy : PolicyContent) : Bool :=
  match groupInventory data with
  | none => false
  | some (count, rows) =>
    let headers := rows.filterMap fun row => if row.array = none ∧ row.row = none then row.group else none
    count == headers.length && decide headers.Nodup && headers.contains (policy.diskGroup : ℤ)

/-- `check_action_topology` -/
def checkActionTopology (args : List String) (data : List (String × Json)) (policy : PolicyContent) : Except PyError Unit :=
  if needsVirtualDrive args then
    if virtualDriveApproved args data policy then .ok () else raise .commandFailed
  else if actionOf args = ["add", "hotsparedrive"] then
    if diskGroupApproved data policy then .ok () else raise .commandFailed
  else .ok ()

/-! ## The controller -/

/-- `alarm_states` -/
def alarmStates : String → Option (List String)
  | "alarm=on" => some ["Off"]
  | "alarm=off" => some ["On", "Silenced"]
  | "alarm=silence" => some ["On"]
  | _ => none

/-- `activity_states` -/
def activityStates : String → Option String
  | "activityforlocate=on" => some "off"
  | "activityforlocate=off" => some "on"
  | _ => none

/-- The alarm is in a state that the command can leave. -/
def alarmAllows (args : List String) (controller : ControllerInfo) : Bool :=
  match (args[2]?).bind alarmStates with
  | some states => states.contains (normalizeAlarmState (some controller.alarmState))
  | none => true

/-- The setting of the locate activity is the one that the command leaves. -/
def activityAllows (args : List String) (data : List (String × Json)) : Bool :=
  match (args[2]?).bind activityStates with
  | some expected =>
    match getField data "Policies" with
    | some (.obj policies) =>
      match getField policies "Use drive activity for locate" with
      | some (.str activity) => Py.casefold (Py.strip activity) == expected
      | _ => false
    | _ => false
  | none => true

/-- `identity["Controllers"][0]["Response Data"]`; the parser of the identity has read both mappings. -/
def identityData (identity : Json) : Except PyError (List (String × Json)) := do
  let controller ← firstController identity
  let data ← item controller "Response Data"
  mapping data

/-! ## The call -/

/-- What one call of the runner with an authorization path reads from outside. -/
structure AuthorizedCall where
  args : List String
  useSudo : Bool
  /-- `load_policy` before the preflight; none is an `OSError` or a `ValueError`. -/
  approved : Option CommandPolicy
  /-- `load_policy` in the preflight -/
  checked : Option CommandPolicy
  /-- `load_policy` after the preflight -/
  latest : Option CommandPolicy
  /-- `verify_pinned_binary` returns in the preflight. -/
  pinnedAtCheck : Bool
  /-- `verify_pinned_binary` returns after the preflight. -/
  pinnedAtDispatch : Bool
  /-- `/c0 show all J` in the preflight -/
  identity : ProcessOutcome
  /-- The reads before a foreign action, numbered. -/
  reads : ℕ → List String → ProcessOutcome
  expectedForeignDigest : Option String
  /-- The callback, by what it does. -/
  beforeWrite : Option (Except PyError Unit)
  /-- The process of the command itself. -/
  process : ProcessOutcome

namespace AuthorizedCall

variable (parsers : PrewriteParsers) (call : AuthorizedCall)

def commandArgs : List String := withJsonFlag call.args

/-- The preflight after the identity is read. -/
def checkIdentity (policy : PolicyContent) (identity : Json) : Except PyError Unit := do
  let controller ← parsers.parseControllerShowAll identity
  if controller.serialNumber ≠ policy.controllerSerial ∨ controller.modelName ≠ "LSI MegaRAID SAS 9270CV-8i" then
    raise .commandFailed
  else if alarmAllows call.commandArgs controller = false then raise .commandFailed
  else do
    let data ← identityData identity
    if activityAllows call.commandArgs data = false then raise .commandFailed
    else do
      checkActionTopology call.commandArgs data policy
      if call.commandArgs.head? = some "/c0/fall" then
        checkForeignSafety parsers identity ⟨policy.controllerSerial⟩
          (fun number args => (runStorcli call.useSudo false (.ok ()) (call.reads number args)).1) call.expectedForeignDigest
      else pure ()

/-- `check_storcli_prewrite` -/
def checkStorcliPrewrite : Except PyError Unit := do
  validateCommand call.commandArgs
  match call.pinnedAtCheck, call.checked with
  | true, some policy =>
    if policy.replacementCommandRefusal call.commandArgs ≠ none then raise .notAvailable
    else if policy.permits call.commandArgs = false then raise .notAvailable
    else do
      let identity ← (runStorcli call.useSudo false (.ok ()) call.identity).1
      call.checkIdentity parsers policy.toPolicyContent identity
  | _, _ => raise .notAvailable

/-- What `run_storcli` does before the process of a write. -/
def authorize : Except PyError Unit :=
  match call.approved with
  | none => raise .notAvailable
  | some approved => do
    call.checkStorcliPrewrite parsers
    match call.latest with
    | none => raise .notAvailable
    | some latest =>
      if latest.toPolicyContent ≠ approved.toPolicyContent ∨ call.pinnedAtDispatch = false then raise .notAvailable
      else call.beforeWrite.getD (.ok ())

/-- `run_storcli` with an authorization path: its answer, and whether the process was started. -/
def run : Except PyError Json × Bool :=
  match validateCommand call.commandArgs with
  | .error error => (.error error, false)
  | .ok _ =>
    if "show" ∈ call.commandArgs then runStorcli call.useSudo false (.ok ()) call.process
    else runStorcli call.useSudo true (call.authorize parsers) call.process

end AuthorizedCall

end MegaraidDashboard.Storcli
