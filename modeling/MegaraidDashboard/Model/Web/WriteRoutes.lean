import MegaraidDashboard.Model.Web.Maintenance
import MegaraidDashboard.Model.Web.ReplaceInsert

/-! # The controller write routes

Every POST route that sends a write, with its name, its command and the modes that its handler asks for on
entry. `before_write` is asked again right before the command is sent.
-/

namespace MegaraidDashboard.Web

open Db

/-! ## Routes -/

inductive LocateAction where
  | start
  | stop
deriving DecidableEq, Repr

def LocateAction.name : LocateAction → String
  | start => "start"
  | stop => "stop"

inductive AdvancedDriveAction where
  | markUbad
  | markUgood
  | spinDown
  | makeHotSpare (dgId : ℕ)
deriving DecidableEq, Repr

inductive PatrolReadMode where
  | auto
  | manual
  | disable
deriving DecidableEq, Repr

inductive PatrolReadAction where
  | start
  | stop
  | mode (mode : PatrolReadMode)
deriving DecidableEq, Repr

inductive ConsistencyCheckMode where
  | concurrent
  | sequential
deriving DecidableEq, Repr

inductive ConsistencyCheckAction where
  | start (vdId : Option ℕ)
  | stop
  | mode (mode : ConsistencyCheckMode)
deriving DecidableEq, Repr

inductive BuzzerAction where
  | silence
  | disable
  | enable
deriving DecidableEq, Repr

inductive ForeignConfigAction where
  | importForeign
  | clear
deriving DecidableEq, Repr

inductive WriteRoute where
  | locate (action : LocateAction) (enclosureId slotId : ℕ)
  | replaceStep (step : ReplaceStep) (enclosureId slotId : ℕ)
  | replaceInsert (enclosureId slotId dg array row : ℕ)
  | advancedDriveAction (action : AdvancedDriveAction) (enclosureId slotId : ℕ)
  | patrolRead (action : PatrolReadAction)
  | consistencyCheck (action : ConsistencyCheckAction)
  | buzzer (action : BuzzerAction)
  | foreignConfig (action : ForeignConfigAction)
deriving DecidableEq, Repr

namespace WriteRoute

/-- `request.scope["route"].name` -/
def name : WriteRoute → String
  | locate .start _ _ => "drive_locate_start"
  | locate .stop _ _ => "drive_locate_stop"
  | replaceStep .offline _ _ => "drive_replace_offline"
  | replaceStep .missing _ _ => "drive_replace_missing"
  | replaceInsert _ _ _ _ _ => "drive_replace_insert"
  | advancedDriveAction .markUbad _ _ => "drive_mark_ubad"
  | advancedDriveAction .markUgood _ _ => "drive_mark_ugood"
  | advancedDriveAction .spinDown _ _ => "drive_spin_down"
  | advancedDriveAction (.makeHotSpare _) _ _ => "drive_make_hot_spare"
  | patrolRead .start => "controller_patrol_read_start"
  | patrolRead .stop => "controller_patrol_read_stop"
  | patrolRead (.mode _) => "controller_patrol_read_mode"
  | consistencyCheck (.start _) => "controller_consistency_check_start"
  | consistencyCheck .stop => "controller_consistency_check_stop"
  | consistencyCheck (.mode _) => "controller_consistency_check_mode"
  | buzzer .silence => "controller_buzzer_silence"
  | buzzer .disable => "controller_buzzer_disable"
  | buzzer .enable => "controller_buzzer_enable"
  | foreignConfig .importForeign => "controller_foreign_config_import"
  | foreignConfig .clear => "controller_foreign_config_clear"

/-- `/c0/e{enclosure}/s{slot}` -/
def driveSelector (enclosureId slotId : ℕ) : String :=
  "/c0/e" ++ toString enclosureId ++ "/s" ++ toString slotId

/-- What the builders of `drive_actions` return. -/
def argv : WriteRoute → List String
  | locate action enclosureId slotId => [driveSelector enclosureId slotId, action.name, "locate", "J"]
  | replaceStep step enclosureId slotId => [driveSelector enclosureId slotId, "set", step.name, "J"]
  | replaceInsert enclosureId slotId dg array row => [driveSelector enclosureId slotId, "insert", "dg=" ++ toString dg,
      "array=" ++ toString array, "row=" ++ toString row, "J"]
  | advancedDriveAction .markUbad enclosureId slotId => [driveSelector enclosureId slotId, "set", "bad"]
  | advancedDriveAction .markUgood enclosureId slotId => [driveSelector enclosureId slotId, "set", "good"]
  | advancedDriveAction .spinDown enclosureId slotId => [driveSelector enclosureId slotId, "spindown"]
  | advancedDriveAction (.makeHotSpare dgId) enclosureId slotId =>
    [driveSelector enclosureId slotId, "add", "hotsparedrive", "dgs=" ++ toString dgId]
  | patrolRead .start => ["/c0", "start", "patrolread", "J"]
  | patrolRead .stop => ["/c0", "stop", "patrolread", "J"]
  | patrolRead (.mode .auto) => ["/c0", "set", "patrolread=on", "mode=auto", "J"]
  | patrolRead (.mode .manual) => ["/c0", "set", "patrolread=on", "mode=manual", "J"]
  | patrolRead (.mode .disable) => ["/c0", "set", "patrolread=off", "J"]
  | consistencyCheck (.start none) => ["/c0/vall", "start", "cc", "J"]
  | consistencyCheck (.start (some vdId)) => ["/c0/v" ++ toString vdId, "start", "cc", "J"]
  | consistencyCheck .stop => ["/c0/vall", "stop", "cc", "J"]
  | consistencyCheck (.mode .concurrent) => ["/c0", "set", "cc=conc", "J"]
  | consistencyCheck (.mode .sequential) => ["/c0", "set", "cc=seq", "J"]
  | buzzer .silence => ["/c0", "set", "alarm=silence"]
  | buzzer .disable => ["/c0", "set", "alarm=off"]
  | buzzer .enable => ["/c0", "set", "alarm=on"]
  | foreignConfig .importForeign => ["/c0/fall", "import", "J"]
  | foreignConfig .clear => ["/c0/fall", "delete", "J"]

/-- The modes without which the handler refuses before it calls `run_storcli`. -/
def entryAllowed (maintenanceMode destructiveMode : Bool) : WriteRoute → Bool
  | locate .start _ _ => maintenanceMode
  | locate .stop _ _ => true
  | replaceStep _ _ _ => maintenanceMode && destructiveMode
  | replaceInsert _ _ _ _ _ => maintenanceMode && destructiveMode
  | advancedDriveAction .markUbad _ _ => maintenanceMode && destructiveMode
  | advancedDriveAction .markUgood _ _ => maintenanceMode
  | advancedDriveAction .spinDown _ _ => maintenanceMode
  | advancedDriveAction (.makeHotSpare _) _ _ => maintenanceMode
  | patrolRead _ => maintenanceMode
  | consistencyCheck _ => maintenanceMode
  | buzzer _ => maintenanceMode
  | foreignConfig _ => maintenanceMode && destructiveMode

/-- The routes under `/replace/` and `/foreign-config/`. -/
def underDestructivePath : WriteRoute → Bool
  | replaceStep _ _ _ => true
  | replaceInsert _ _ _ _ _ => true
  | foreignConfig _ => true
  | _ => false

end WriteRoute

/-! ## Authorisation -/

inductive ControllerActionCapability where
  | none
  | locate
  | fullSupportedActions
deriving DecidableEq, Repr

/-- The fields of the settings that authorise a write. -/
structure WriteSettings where
  controllerReadOnly : Bool
  controllerActionCapability : ControllerActionCapability
  maintenanceMode : Bool
  destructiveMode : Bool
deriving DecidableEq, Repr

/-- `_write_settings` -/
def writeSettings (settings : WriteSettings) (stored : Option MaintenanceRecord) (now : ℤ) : WriteSettings :=
  { settings with maintenanceMode := maintenanceWritesEnabled stored settings.maintenanceMode now }

/-- A request to a write route; `url_path` is what the framework makes of the request line and the headers. -/
structure WriteRequest where
  route : WriteRoute
  urlPath : String

/-- `before_write` returns instead of raising. -/
def beforeWrite (settings : WriteSettings) (stored : Option MaintenanceRecord) (request : WriteRequest) (now : ℤ) :
    Bool :=
  let current := writeSettings settings stored now
  let recovery := request.route.name == "drive_locate_stop"
  let destructive := Py.contains request.urlPath "/replace/" || Py.contains request.urlPath "/foreign-config/"
  !(current.controllerReadOnly || current.controllerActionCapability != .fullSupportedActions ||
    (!recovery && !current.maintenanceMode) || (destructive && !current.destructiveMode))

/-- `_authorization_kwargs`: the check is handed over in the full capability only. -/
def authorizationKwargs (settings : WriteSettings) (request : WriteRequest) :
    Option (Option MaintenanceRecord → ℤ → Bool) :=
  if settings.controllerActionCapability = .fullSupportedActions then
    some fun stored now => beforeWrite settings stored request now
  else none

/-- The last gate of `run_storcli`, after which the process is started. -/
def runStorcliSends (args : List String) (check : Option (Option MaintenanceRecord → ℤ → Bool))
    (stored : Option MaintenanceRecord) (now : ℤ) : Bool :=
  match check with
  | some check => args.contains "show" || check stored now
  | none => true

/-! ## The run -/

inductive WritePhase where
  | arrived
  /-- The handler has let the request in; its reads and the preflight checks are under way. -/
  | admitted
  | ended
deriving DecidableEq, Repr

structure WriteRun (ι : Type) where
  stored : Option MaintenanceRecord
  phase : ι → WritePhase
  /-- The requests whose write was sent, in order. -/
  dispatched : List ι

def WriteRun.initial {ι : Type} (stored : Option MaintenanceRecord) : WriteRun ι := ⟨stored, fun _ => .arrived, []⟩

inductive WriteStep (ι : Type) where
  | maintenanceStart (request : MaintenanceStartRequest) (username : String) (now : ℤ)
  | maintenanceStop (now : ℤ)
  /-- The handler reads the modes. -/
  | enter (index : ι) (now : ℤ)
  /-- Any other check, read or preflight of the request fails. -/
  | refuse (index : ι)
  /-- `before_write` runs and, unless it raises, the process is started. -/
  | write (index : ι) (now : ℤ)

/-- The labels that record a window. -/
def WriteStep.recordsWindow {ι : Type} : WriteStep ι → Bool
  | maintenanceStart _ _ _ => true
  | maintenanceStop _ => true
  | _ => false

namespace WriteRun

variable {ι : Type} [DecidableEq ι]

def setPhase (run : WriteRun ι) (index : ι) (phase : WritePhase) : WriteRun ι :=
  { run with phase := Function.update run.phase index phase }

def step (settings : WriteSettings) (requests : ι → WriteRequest) (run : WriteRun ι) : WriteStep ι → WriteRun ι
  | .maintenanceStart request username now => { run with stored := some (request.record username now) }
  | .maintenanceStop _ => { run with stored := some maintenanceStopped }
  | .enter index now =>
    match run.phase index with
    | .arrived =>
      let current := writeSettings settings run.stored now
      if (requests index).route.entryAllowed current.maintenanceMode current.destructiveMode then
        run.setPhase index .admitted
      else run.setPhase index .ended
    | _ => run
  | .refuse index => run.setPhase index .ended
  | .write index now =>
    match run.phase index with
    | .admitted =>
      if runStorcliSends (requests index).route.argv (authorizationKwargs settings (requests index)) run.stored now then
        { run.setPhase index .ended with dispatched := run.dispatched ++ [index] }
      else run.setPhase index .ended
    | _ => run

end WriteRun

end MegaraidDashboard.Web
