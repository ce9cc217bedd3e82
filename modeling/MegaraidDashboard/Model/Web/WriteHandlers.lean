import MegaraidDashboard.Model.Storcli.Runner
import MegaraidDashboard.Model.Storcli.States
import MegaraidDashboard.Model.Web.WriteRoutes

/-! # The write handlers

Each handler as a function of what its reads, its processes and its audit insertion do, in the full capability.
A handler first prepares: it answers by itself or goes on to its write. Behind the write stand the verification of
a replacement step, the audit event and the response.
-/

namespace MegaraidDashboard.Web

open Storcli

/-! ## Answers -/

/-- What the text of an audit event says of the operation. -/
inductive AuditOutcome where
  | succeeded
  | failed (kind : StorcliErrorKind)
  | failedBeforeExecution (kind : StorcliErrorKind)
  | precheckFailed (kind : StorcliErrorKind)
  | rejected (reason : String)
deriving DecidableEq, Repr

inductive RouteResponse where
  | success
  /-- The answer to a dry run. -/
  | preview
  | failure (status : ℕ)
  /-- `_audit_persistence_failure_response` -/
  | auditPersistenceFailure
  /-- An exception that leaves the handler. -/
  | unhandled (error : PyError)
deriving DecidableEq, Repr

/-- What the client takes for a success: the answer to one, and a refusal with its status. -/
def RouteResponse.reportsSuccess : RouteResponse → Bool
  | success => true
  | failure status => status == 200
  | _ => false

/-- A response, the committed audit events of the request, and whether its write was dispatched. -/
structure HandlerResult where
  response : RouteResponse
  audits : List AuditOutcome
  dispatched : Bool
deriving DecidableEq, Repr

/-- Every handler inserts its one audit event this way; `extras` go into the response to a failed insertion. -/
def audited (saved : Bool) (outcome : AuditOutcome) (dispatched : Bool) (response : RouteResponse) (extras : Option Json) :
    HandlerResult :=
  if saved then ⟨response, [outcome], dispatched⟩
  else if extras.all Json.renderable then ⟨.auditPersistenceFailure, [], dispatched⟩
  else ⟨.unhandled .valueError, [], dispatched⟩

/-- A `JSONResponse`, whose body may be impossible to render. -/
def jsonResponse (renderable : Bool) (response : RouteResponse) : RouteResponse :=
  if renderable then response else .unhandled .valueError

/-- A response that carries the payload of the write. -/
def withResult (result : Json) : RouteResponse := jsonResponse result.renderable .success

/-! ## The write -/

/-- What a request meets: the modes on entry, the preflight of its write with `before_write`, the process of the write
and the insertion of the audit event, which raises `SQLAlchemyError` unless it is saved. -/
structure WriteContext where
  useSudo : Bool
  maintenanceMode : Bool
  destructiveMode : Bool
  preflight : Except PyError Unit
  process : ProcessOutcome
  saved : Bool

inductive Preparation where
  | answered (result : HandlerResult)
  | proceed

/-- The `try` block of a write: its payload, and what it raises. -/
structure Attempt where
  result : Option Json
  outcome : Except PyError Json
  dispatched : Bool

variable [PyText]

/-- `run_storcli`, `ensure_command_succeeded` and a check behind them. -/
def WriteContext.attempt (context : WriteContext) (verify : Except PyError Unit) : Attempt :=
  match runStorcli context.useSudo true context.preflight context.process with
  | (.error error, dispatched) => ⟨none, .error error, dispatched⟩
  | (.ok payload, dispatched) =>
    ⟨some payload, do ensureCommandSucceeded payload; verify; pure payload, dispatched⟩

/-- Behind the `try` block: the audit event and the response. -/
def WriteContext.finish (context : WriteContext) (attempt : Attempt) (outcomeOf : StorcliError → AuditOutcome)
    (refuse : StorcliError → RouteResponse) (answer : Json → RouteResponse) : HandlerResult :=
  match attempt.outcome with
  | .ok payload => audited context.saved .succeeded attempt.dispatched (answer payload) attempt.result
  | .error (.storcli error) =>
    audited context.saved (outcomeOf error) attempt.dispatched (refuse error) attempt.result
  | .error error => ⟨.unhandled error, [], attempt.dispatched⟩

def failedOutcome (error : StorcliError) : AuditOutcome := .failed error.kind

/-- An audited refusal before the write. -/
def WriteContext.refuse (context : WriteContext) (reason : String) (response : RouteResponse) : Preparation :=
  .answered (audited context.saved (.rejected reason) false response none)

def WriteContext.reject (context : WriteContext) (reason : String) (status : ℕ) : Preparation :=
  context.refuse reason (.failure status)

/-- An answer without an audit event before the write. -/
def answer (response : RouteResponse) : Preparation := .answered ⟨response, [], false⟩

/-- A read before the write; its `StorcliError` is audited and answered with the status. -/
def WriteContext.afterReadWith {α : Type} (context : WriteContext) (status : ℕ) (outcomeOf : StorcliError → AuditOutcome)
    (read : Except PyError α) (next : α → Preparation) : Preparation :=
  match read with
  | .ok value => next value
  | .error (.storcli error) => .answered (audited context.saved (outcomeOf error) false (.failure status) none)
  | .error error => answer (.unhandled error)

def WriteContext.afterRead {α : Type} (context : WriteContext) : (StorcliError → AuditOutcome) → Except PyError α →
    (α → Preparation) → Preparation :=
  context.afterReadWith 502

/-! ## Drives -/

/-- The slot, the typed serial number and what the handler reads of the drive. -/
structure DriveReadings where
  enclosureId : ℕ
  slotId : ℕ
  serialNumber : String
  dryRun : Bool
  /-- The latest row of the slot. -/
  snapshot : Option DriveShow
  /-- The process of the live read. -/
  live : ProcessOutcome

/-- `_query_live_drive_show` of the slot. -/
def DriveReadings.query (readings : DriveReadings) (useSudo : Bool) (process : ProcessOutcome) : Except PyError DriveShow :=
  queryLiveDriveShow useSudo (WriteRoute.driveSelector readings.enclosureId readings.slotId)
    (slotReference readings.enclosureId readings.slotId) process

def precheckOutcome (error : StorcliError) : AuditOutcome := .precheckFailed error.kind

/-- `_run_locate` -/
def runLocate (context : WriteContext) (action : LocateAction) : Preparation :=
  if action = .start ∧ context.maintenanceMode = false then context.reject "maintenance_mode required" 403 else .proceed

/-- `_advanced_drive_action_allowed` -/
def advancedDriveActionAllowed (currentState : String) (hasRequestedDg : Bool) : AdvancedDriveAction → Bool
  | .markUbad => currentState == "UGood"
  | .markUgood => currentState == "UBad"
  | .spinDown => currentState == "UGood" || currentState == "UBad"
  | .makeHotSpare _ => currentState == "UGood" && hasRequestedDg

/-- `_run_advanced_drive_action` -/
def runAdvancedDriveAction (context : WriteContext) (action : AdvancedDriveAction) (readings : DriveReadings)
    (hasRequestedDg : Bool) : Preparation :=
  match readings.snapshot with
  | none => answer (.failure 404)
  | some drive =>
    if drive.serialNumber ≠ readings.serialNumber then answer (.failure 409)
    else if !advancedDriveActionAllowed drive.state hasRequestedDg action then answer (.failure 409)
    else if !context.maintenanceMode then answer (.failure 403)
    else if action = .markUbad ∧ context.destructiveMode = false then answer (.failure 403)
    else context.afterRead precheckOutcome (readings.query context.useSudo readings.live) fun live =>
      if live.serialNumber ≠ drive.serialNumber then answer (.failure 409)
      else if !advancedDriveActionAllowed live.state hasRequestedDg action then answer (.failure 409)
      else .proceed

/-- `can_transition` -/
def canTransition (currentState : String) : ReplaceStep → Bool
  | .offline => ["Onln", "Offln", "Failed", "UBad", "UGood"].contains currentState
  | .missing => currentState == "Offln"

/-- `_run_replace_step` -/
def runReplaceStep (context : WriteContext) (step : ReplaceStep) (readings : DriveReadings) : Preparation :=
  match readings.snapshot with
  | none => answer (.failure 404)
  | some drive =>
    if drive.serialNumber ≠ readings.serialNumber then answer (.failure 409)
    else if readings.dryRun then
      if canTransition drive.state step then answer .preview else answer (.failure 409)
    else if !context.maintenanceMode || !context.destructiveMode then answer (.failure 403)
    else context.afterRead precheckOutcome (readings.query context.useSudo readings.live) fun live =>
      if live.serialNumber ≠ readings.serialNumber then answer (.failure 409)
      else if !canTransition live.state step then answer (.failure 409)
      else .proceed

/-- The read behind an accepted replacement step; its `StorcliError` is replaced by an uncertain outcome. -/
def verifyReplaceStep (context : WriteContext) (step : ReplaceStep) (readings : DriveReadings)
    (verification : ProcessOutcome) : Except PyError Unit :=
  match readings.query context.useSudo verification with
  | .ok observed =>
    if observed.serialNumber = readings.serialNumber ∧ normalizedState observed.state = step.name then .ok ()
    else raise .commandFailed
  | .error (.storcli _) => raise .commandFailed
  | .error error => .error error

/-- `drive_replace_insert` -/
def driveReplaceInsert (context : WriteContext) (readings : DriveReadings) (lastAudit : Option String)
    (topology : Option SlotTopology) : Preparation :=
  match readings.snapshot with
  | none => answer (.failure 404)
  | some drive =>
    let outgoing := lastAudit.bind extractSerialFromAudit
    if !canTransitionStep3 lastAudit then answer (.failure 409)
    else if outgoing = some readings.serialNumber then answer (.failure 409)
    else if drive.serialNumber ≠ readings.serialNumber ∧ outgoing ≠ some drive.serialNumber then answer (.failure 409)
    else match topology with
      | none => answer (.failure 409)
      | some topology =>
        if !topology.accepted then answer (.failure 400)
        else if readings.dryRun then answer .preview
        else if !context.maintenanceMode || !context.destructiveMode then answer (.failure 403)
        else context.afterRead precheckOutcome (readings.query context.useSudo readings.live) fun live =>
          if live.serialNumber ≠ readings.serialNumber then answer (.failure 409)
          else if live.state ≠ "UGood" then answer (.failure 409)
          else .proceed

/-! ## The controller -/

/-- The fields of a patrol read or consistency check status that decide. -/
structure OperationStatus where
  state : String
  isRunning : Bool
  /-- The texts of the status hold no lone surrogate. -/
  renderable : Bool
deriving DecidableEq, Repr

inductive OperationAction where
  | start
  | stop
  | mode
deriving DecidableEq, Repr

/-- What the body of a request is parsed to. -/
inductive RequestBody where
  | accepted
  /-- The errors go into the answer. -/
  | rejected (detail : Json)
  | raised (error : PyError)

/-- The header and the body of a request for patrol read or the consistency check. -/
structure OperationRequest where
  /-- `HX-Request: true` -/
  hxRequest : Bool
  body : RequestBody

/-- `_patrol_read_rejection_status`: htmx shows the body of a 200 only. -/
def OperationRequest.rejectionStatus (request : OperationRequest) (statusCode : ℕ) : ℕ :=
  if request.hxRequest then 200 else statusCode

/-- The handlers of patrol read and consistency check from the modes up to the write; a change of the mode reads the
status inside its `try` block. -/
def prepareOperation (context : WriteContext) (action : OperationAction) (request : OperationRequest)
    (status : Except PyError OperationStatus) : Preparation :=
  if !context.maintenanceMode then context.reject "maintenance_mode required" (request.rejectionStatus 403)
  else context.afterReadWith (request.rejectionStatus 502) failedOutcome status fun status =>
    match action with
    | .start => if Py.lower status.state = "stopped" ∨ Py.lower status.state = "ready" then .proceed
      else context.refuse "already running" (jsonResponse status.renderable (.failure (request.rejectionStatus 409)))
    | .stop => if status.isRunning then .proceed
      else context.refuse "not running" (jsonResponse status.renderable (.failure (request.rejectionStatus 409)))
    | .mode => if Py.lower status.state = "unknown" then
        .answered (audited context.saved (.failed .commandFailed) false (.failure (request.rejectionStatus 502)) none)
      else .proceed

/-- The parsing of the body before the handler goes on. -/
def afterBody (request : OperationRequest) (next : Preparation) : Preparation :=
  match request.body with
  | .accepted => next
  | .rejected detail => answer (jsonResponse detail.renderable (.failure (request.rejectionStatus 400)))
  | .raised error => answer (.unhandled error)

def PatrolReadAction.operation : PatrolReadAction → OperationAction
  | start => .start
  | stop => .stop
  | mode _ => .mode

def ConsistencyCheckAction.operation : ConsistencyCheckAction → OperationAction
  | start _ => .start
  | stop => .stop
  | mode _ => .mode

/-- The request has a body. -/
def PatrolReadAction.hasBody : PatrolReadAction → Bool
  | mode _ => true
  | _ => false

def ConsistencyCheckAction.hasBody : ConsistencyCheckAction → Bool
  | stop => false
  | _ => true

/-- The handlers of patrol read and consistency check up to the write. -/
def runOperation (context : WriteContext) (hasBody : Bool) (action : OperationAction) (request : OperationRequest)
    (status : Except PyError OperationStatus) : Preparation :=
  if hasBody then afterBody request (prepareOperation context action request status)
  else prepareOperation context action request status

/-- `controller_patrol_read_start`, `_stop` and `_mode` -/
def runPatrolRead (context : WriteContext) (action : PatrolReadAction) (request : OperationRequest)
    (status : Except PyError OperationStatus) : Preparation :=
  runOperation context action.hasBody action.operation request status

/-- `controller_consistency_check_start`, `_stop` and `_mode` -/
def runConsistencyCheck (context : WriteContext) (action : ConsistencyCheckAction) (request : OperationRequest)
    (status : Except PyError OperationStatus) : Preparation :=
  runOperation context action.hasBody action.operation request status

/-- The response behind the audit event of patrol read and consistency check: the status is read again. -/
def afterRefresh (request : OperationRequest) (refresh : Except PyError OperationStatus) : RouteResponse :=
  match refresh with
  | .ok status => jsonResponse status.renderable .success
  | .error (.storcli _) => .failure (request.rejectionStatus 502)
  | .error error => .unhandled error

/-- `_run_controller_buzzer_action` -/
def runControllerBuzzerAction (context : WriteContext) : Preparation :=
  if context.maintenanceMode then .proceed else context.reject "maintenance_mode required" 403

def buzzerOutcome (error : StorcliError) : AuditOutcome :=
  if error.writeSent = some false then .failedBeforeExecution error.kind else .failed error.kind

def buzzerRefusal (error : StorcliError) : RouteResponse :=
  if error.writeSent = some false then .failure 409 else .failure 502

/-- What the foreign configuration handlers read. -/
structure ForeignReadings where
  confirmation : String
  /-- The digest that the operator reviewed. -/
  digest : String
  dryRun : Bool
  /-- The presence and the digest of the live configuration. -/
  live : Except PyError (Bool × String)
  /-- `check_storcli_prewrite` of a dry run. -/
  preview : Except PyError Unit

/-- `_FOREIGN_CONFIG_CLEAR_CONFIRMATION` -/
def foreignConfigClearConfirmation : String := "CLEAR FOREIGN CONFIG"

/-- The audit event of a failed live read. -/
def foreignReadOutcome (error : StorcliError) : AuditOutcome :=
  .rejected (if error.kind = .parseError then "storcli parse failed" else "storcli command failed")

/-- The end of both handlers before the write. -/
def prepareForeignWrite (context : WriteContext) (readings : ForeignReadings) : Preparation :=
  if readings.dryRun then
    context.afterRead (fun _ => .rejected "live safety precheck failed") readings.preview fun _ => answer .preview
  else if !context.maintenanceMode || !context.destructiveMode then
    context.reject "maintenance_mode and destructive_mode required" 403
  else .proceed

/-- `controller_foreign_config_import` and `controller_foreign_config_clear` -/
def runForeignConfig (context : WriteContext) (readings : ForeignReadings) : ForeignConfigAction → Preparation
  | .importForeign =>
    context.afterRead foreignReadOutcome readings.live fun (present, digest) =>
      if !present then context.reject "no foreign configuration present" 409
      else if readings.confirmation ≠ digest then context.reject "confirmation mismatch" 409
      else prepareForeignWrite context readings
  | .clear =>
    if readings.confirmation ≠ foreignConfigClearConfirmation then context.reject "confirmation phrase mismatch" 409
    else if readings.digest = "" then context.reject "reviewed digest required" 409
    else context.afterRead foreignReadOutcome readings.live fun (present, digest) =>
      if !present then context.reject "no foreign configuration present" 409
      else if readings.digest ≠ digest then context.reject "reviewed foreign configuration changed" 409
      else prepareForeignWrite context readings

/-! ## One request -/

/-- A request to a write route with everything that its handler reads. -/
inductive HandlerInput where
  | locate (action : LocateAction)
  | advancedDriveAction (action : AdvancedDriveAction) (readings : DriveReadings) (hasRequestedDg : Bool)
  | replaceStep (step : ReplaceStep) (readings : DriveReadings) (verification : ProcessOutcome)
  | replaceInsert (readings : DriveReadings) (lastAudit : Option String) (topology : Option SlotTopology)
  | patrolRead (action : PatrolReadAction) (request : OperationRequest) (status refresh : Except PyError OperationStatus)
  | consistencyCheck (action : ConsistencyCheckAction) (request : OperationRequest)
      (status refresh : Except PyError OperationStatus)
  | buzzer (action : BuzzerAction)
  | foreignConfig (action : ForeignConfigAction) (readings : ForeignReadings)

/-- What the handler does before its write. -/
def HandlerInput.prepare (context : WriteContext) : HandlerInput → Preparation
  | locate action => runLocate context action
  | advancedDriveAction action readings hasRequestedDg => runAdvancedDriveAction context action readings hasRequestedDg
  | replaceStep step readings _ => runReplaceStep context step readings
  | replaceInsert readings lastAudit topology => driveReplaceInsert context readings lastAudit topology
  | patrolRead action request status _ => runPatrolRead context action request status
  | consistencyCheck action request status _ => runConsistencyCheck context action request status
  | buzzer _ => runControllerBuzzerAction context
  | foreignConfig action readings => runForeignConfig context readings action

/-- What the handler checks between the acceptance of its write and the audit event. -/
def HandlerInput.verify (context : WriteContext) : HandlerInput → Except PyError Unit
  | replaceStep step readings verification => verifyReplaceStep context step readings verification
  | _ => .ok ()

/-- What the handler does from its write on. -/
def HandlerInput.write (context : WriteContext) (input : HandlerInput) : HandlerResult :=
  let attempt := context.attempt (input.verify context)
  match input with
  | locate _ => context.finish attempt failedOutcome (fun _ => .failure 502) withResult
  | advancedDriveAction _ _ _ => context.finish attempt failedOutcome (fun _ => .failure 502) fun _ => .success
  | replaceStep _ _ _ => context.finish attempt failedOutcome (fun _ => .failure 502) withResult
  | replaceInsert _ _ _ => context.finish attempt failedOutcome (fun _ => .failure 502) withResult
  | patrolRead _ request _ refresh => context.finish attempt failedOutcome
      (fun _ => .failure (request.rejectionStatus 502)) fun _ => afterRefresh request refresh
  | consistencyCheck _ request _ refresh => context.finish attempt failedOutcome
      (fun _ => .failure (request.rejectionStatus 502)) fun _ => afterRefresh request refresh
  | buzzer _ => context.finish attempt buzzerOutcome buzzerRefusal fun _ => .success
  | foreignConfig _ _ => context.finish attempt failedOutcome (fun _ => .failure 502) withResult

/-- The handler. -/
def HandlerInput.handle (context : WriteContext) (input : HandlerInput) : HandlerResult :=
  match input.prepare context with
  | .answered result => result
  | .proceed => input.write context

end MegaraidDashboard.Web
