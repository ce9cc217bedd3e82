import MegaraidDashboard.Model.Web.WriteHandlers
import MegaraidDashboard.ToMathlib.Raises

/-! # Every dispatched write is audited

The parsers raise nothing but `StorcliError` on a payload that was accepted, so an exception can leave a handler
behind its write only where a process or its output raises one by itself.
-/

namespace MegaraidDashboard.Web

open Storcli Except

variable [PyText]

/-! ## What the parsers raise -/

section Parsers

/-- A `StorcliError`. -/
def OnlyStorcli (error : PyError) : Prop := error.isStorcli = true

/-- An exception that `parse_drive_show` turns into a `StorcliParseError`, or a `StorcliError`. -/
def OnlySchema (error : PyError) : Prop :=
  error.isStorcli = true ∨ error = .keyError ∨ error = .typeError ∨ error = .validationError

omit [PyText] in
theorem raises_raise {α : Type} (kind : StorcliErrorKind) : Raises OnlyStorcli (raise kind : Except PyError α) :=
  raises_error rfl

omit [PyText] in
theorem onlySchema_of_onlyStorcli (error : PyError) (only : OnlyStorcli error) : OnlySchema error := .inl only

omit [PyText] in
theorem firstController_raises (payload : Json) : Raises OnlyStorcli (firstController payload) := by
  unfold firstController
  split
  · split
    · exact raises_ok _
    · exact raises_raise _
  · exact raises_raise _

theorem ensureCommandSucceeded_raises (payload : Json) : Raises OnlyStorcli (ensureCommandSucceeded payload) := by
  apply (firstController_raises payload).bind
  intro controller _
  dsimp only
  split
  · split
    · exact raises_ite (raises_raise _) (raises_ite (raises_ok _) (raises_raise _))
    · exact raises_raise _
  · exact raises_raise _

/-- An accepted payload has a status that the parsers can read. -/
theorem status_of_accepted {payload : Json} (accepted : ensureCommandSucceeded payload = .ok ()) :
    ∃ controller status, firstController payload = .ok controller ∧
      getField controller "Command Status" = some (.obj status) := by
  obtain ⟨controller, first, accepted⟩ := bind_eq_ok accepted
  split at accepted
  · next status field => exact ⟨controller, status, first, field⟩
  · cases accepted

theorem ensureSuccess_raises {payload : Json} (accepted : ensureCommandSucceeded payload = .ok ()) :
    Raises OnlyStorcli (ensureSuccess payload) := by
  obtain ⟨controller, status, first, field⟩ := status_of_accepted accepted
  have failed : commandFailed controller = .ok ((getField status "Status").any printsFailure) := by
    rw [commandFailed, field]
    rfl
  unfold ensureSuccess
  rw [first]
  change Raises OnlyStorcli (commandFailed controller >>= _)
  rw [failed]
  exact raises_ite (raises_raise _) (raises_ok _)

omit [PyText] in
theorem item_raises (fields : List (String × Json)) (name : String) : Raises OnlySchema (item fields name) := by
  unfold item
  split
  · exact raises_ok _
  · exact raises_error (.inr (.inl rfl))

omit [PyText] in
theorem mapping_raises (value : Json) : Raises OnlySchema (mapping value) := by
  unfold mapping
  split
  · exact raises_ok _
  · exact raises_error (.inr (.inr (.inl rfl)))

omit [PyText] in
theorem itemMapping_raises (fields : List (String × Json)) (name : String) :
    Raises OnlySchema ((item fields name).bind mapping) :=
  (item_raises fields name).bind fun _ _ => mapping_raises _

omit [PyText] in
theorem responseData_raises (controller : List (String × Json)) : Raises OnlySchema (responseData controller) := by
  unfold responseData
  split
  · exact raises_ok _
  · exact (raises_raise _).mono onlySchema_of_onlyStorcli

omit [PyText] in
theorem driveRows_raises (response : List (String × Json)) : Raises OnlySchema (driveRows response) := by
  induction response with
  | nil => exact raises_ok _
  | cons field rest ih =>
    obtain ⟨key, value⟩ := field
    unfold driveRows
    apply raises_ite
    · split
      · exact ih.bind fun _ _ => raises_ok _
      · exact raises_error (.inr (.inr (.inl rfl)))
    · exact ih

omit [PyText] in
theorem validate_raises (state : String) (serialNumber : Json) :
    Raises OnlySchema (DriveShow.validate state serialNumber) := by
  unfold DriveShow.validate
  split
  · exact raises_ite (raises_error (.inr (.inr (.inr rfl)))) (raises_ok _)
  · exact raises_error (.inr (.inr (.inl rfl)))

omit [PyText] in
theorem extractDriveShow_raises (response fields : List (String × Json)) :
    Raises OnlySchema (extractDriveShow response fields) := by
  induction fields with
  | nil => exact (raises_raise _).mono onlySchema_of_onlyStorcli
  | cons field rest ih =>
    obtain ⟨key, value⟩ := field
    unfold extractDriveShow
    split
    · split
      · apply (itemMapping_raises _ _).bind
        intro detail _
        apply (itemMapping_raises _ _).bind
        intro attributes _
        apply (item_raises _ _).bind
        intro serialNumber _
        exact validate_raises _ _
      · exact ih
    · exact ih

omit [PyText] in
theorem identifiesDrive_raises (payload : Json) (controller response : List (String × Json))
    (requestedDrive slotReference : String) :
    Raises OnlySchema (identifiesDrive payload controller response requestedDrive slotReference) := by
  apply (itemMapping_raises _ _).bind
  intro status _
  apply (driveRows_raises response).bind
  intro rows _
  split
  · split
    · apply raises_ite
      · apply (mapping_raises _).bind
        intro summary _
        split
        · exact raises_ok _
        · exact raises_ok _
      · exact raises_ok _
    · exact raises_ok _
  · exact raises_ok _

omit [PyText] in
theorem schemaErrors_raises {α : Type} {answer : Except PyError α} (raises : Raises OnlySchema answer) :
    Raises OnlyStorcli (schemaErrors answer) := by
  cases answer with
  | ok value => exact raises_ok _
  | error error =>
    rcases raises error rfl with storcli | rfl | rfl | rfl
    · cases error with
      | storcli error => exact raises_error rfl
      | _ => cases storcli
    · exact raises_raise _
    · exact raises_raise _
    · exact raises_raise _

/-- On an accepted payload `parse_drive_show` raises nothing but a `StorcliError`. -/
theorem parseDriveShow_raises {payload : Json} (accepted : ensureCommandSucceeded payload = .ok ())
    (requestedDrive slotReference : String) :
    Raises OnlyStorcli (parseDriveShow payload requestedDrive slotReference) := by
  apply (ensureSuccess_raises accepted).bind
  intro controller _
  apply schemaErrors_raises
  apply (responseData_raises controller).bind
  intro response _
  apply (identifiesDrive_raises _ _ _ _ _).bind
  intro identified _
  exact raises_ite (extractDriveShow_raises _ _) ((raises_raise _).mono onlySchema_of_onlyStorcli)

end Parsers

/-! ## What a process raises -/

section Processes

def Stdout.overflows : Stdout → Bool
  | .intTooLarge => true
  | .tooDeep => true
  | _ => false

def Stdout.overflowsFailed : Stdout → Bool
  | .tooDeep => true
  | _ => false

/-- The process, or `json.loads` on its output, raises an exception that is no `StorcliError`: the process cannot be
started for a reason other than its file or its permissions, is gone when it is killed at the timeout, or prints an
integer with too many digits or too deep a nesting. -/
def unreadable (useSudo : Bool) : ProcessOutcome → Bool
  | .spawnFailed .other => true
  | .spawnFailed _ => false
  | .timedOut gone => gone
  | .exited returncode stdout stderr =>
    !(useSudo && sudoBlocked (Py.strip stderr)) &&
      if returncode ≠ 0 then decide (Py.strip stderr = "") && Stdout.overflowsFailed stdout else Stdout.overflows stdout

omit [PyText] in
theorem parseStdout_isStorcli {write : Bool} {stdout : Stdout} {error : PyError}
    (raised : parseStdout write stdout = .error error) : error.isStorcli = !Stdout.overflows stdout := by
  unfold parseStdout at raised
  split at raised
  · cases raised
    rfl
  · cases raised
    rfl
  · cases raised
    rfl
  · split at raised
    · cases raised
      rfl
    · cases raised
  · next other _ =>
    cases raised
    cases other <;> rfl

omit [PyText] in
theorem failedExit_isStorcli (stdout : Stdout) (stderrText : String) :
    (failedExit stdout stderrText).isStorcli = !(decide (stderrText = "") && Stdout.overflowsFailed stdout) := by
  unfold failedExit
  split_ifs with blank
  · rw [decide_eq_true blank, Bool.true_and]
    cases stdout with
    | json payload =>
      dsimp only
      split_ifs
      · rfl
      · rfl
    | _ => rfl
  · rw [decide_eq_false blank, Bool.false_and]
    rfl

/-- Which processes raise an exception that is no `StorcliError`. -/
theorem awaitProcess_escapes_iff {useSudo write : Bool} {process : ProcessOutcome} :
    (∃ error, awaitProcess useSudo write process = .error error ∧ error.isStorcli = false) ↔
      unreadable useSudo process = true := by
  cases process with
  | spawnFailed error => cases error <;> simp [awaitProcess, unreadable, raise, PyError.isStorcli]
  | timedOut gone => cases gone <;> simp [awaitProcess, unreadable, raise, PyError.isStorcli]
  | exited returncode stdout stderr =>
    simp only [awaitProcess, unreadable]
    by_cases blocked : (useSudo && sudoBlocked (Py.strip stderr)) = true
    · simp [blocked, raise, PyError.isStorcli]
    · rw [if_neg blocked, Bool.eq_false_iff.mpr blocked, Bool.not_false, Bool.true_and]
      by_cases failed : returncode ≠ 0
      · rw [if_pos failed, if_pos failed]
        constructor
        · rintro ⟨error, ⟨⟩, escapes⟩
          rwa [failedExit_isStorcli, Bool.not_eq_false'] at escapes
        · intro overflows
          exact ⟨_, rfl, by rw [failedExit_isStorcli, overflows, Bool.not_true]⟩
      · rw [if_neg failed, if_neg failed]
        constructor
        · rintro ⟨error, raised, escapes⟩
          rwa [parseStdout_isStorcli raised, Bool.not_eq_false'] at escapes
        · intro overflows
          cases stdout with
          | intTooLarge => exact ⟨_, rfl, rfl⟩
          | tooDeep => exact ⟨_, rfl, rfl⟩
          | notJson => cases overflows
          | json value => cases overflows

/-- Which processes let an exception escape from the read of one drive. -/
theorem queryLiveDriveShow_escapes_iff {useSudo : Bool} {requestedDrive slotReference : String}
    {process : ProcessOutcome} :
    (∃ error, queryLiveDriveShow useSudo requestedDrive slotReference process = .error error ∧
      error.isStorcli = false) ↔ unreadable useSudo process = true := by
  rw [← @awaitProcess_escapes_iff _ useSudo false process]
  have await : (runStorcli useSudo false (.ok ()) process).1 = awaitProcess useSudo false process := rfl
  constructor
  · rintro ⟨error, raised, escapes⟩
    cases answer : awaitProcess useSudo false process with
    | error other =>
      rw [queryLiveDriveShow, await, answer] at raised
      cases raised
      exact ⟨_, rfl, escapes⟩
    | ok payload =>
      rw [queryLiveDriveShow, await, answer] at raised
      have only : Raises OnlyStorcli (ensureCommandSucceeded payload >>= fun _ =>
          parseDriveShow payload requestedDrive slotReference) := by
        apply (ensureCommandSucceeded_raises payload).bind
        rintro ⟨⟩ accepted
        exact parseDriveShow_raises accepted requestedDrive slotReference
      rw [show error.isStorcli = true from only error raised] at escapes
      cases escapes
  · rintro ⟨error, raised, escapes⟩
    refine ⟨error, ?_, escapes⟩
    rw [queryLiveDriveShow, await, raised]
    rfl

end Processes

/-! ## Before the write -/

section Prepare

variable {context : WriteContext}

/-- A handler that answers before its write dispatches nothing and reports no success. -/
def Quiet : Preparation → Prop
  | .answered result => result.dispatched = false ∧ result.response.reportsSuccess = false
  | .proceed => True

omit [PyText] in
theorem quiet_audited (saved : Bool) (outcome : AuditOutcome) {response : RouteResponse}
    (other : response.reportsSuccess = false) : Quiet (.answered (audited saved outcome false response none)) := by
  cases saved with
  | false => exact ⟨rfl, rfl⟩
  | true => exact ⟨rfl, other⟩

omit [PyText] in
theorem quiet_answer {response : RouteResponse} (other : response.reportsSuccess = false) : Quiet (answer response) :=
  ⟨rfl, other⟩

omit [PyText] in
theorem quiet_failure {status : ℕ} (other : (status == 200) = false) : Quiet (answer (.failure status)) :=
  quiet_answer other

omit [PyText] in
theorem quiet_preview : Quiet (answer .preview) := quiet_answer rfl

omit [PyText] in
theorem quiet_reject (reason : String) {status : ℕ} (other : (status == 200) = false) :
    Quiet (context.reject reason status) := quiet_audited _ _ other

omit [PyText] in
theorem quiet_afterReadWith {α : Type} {status : ℕ} {outcomeOf : StorcliError → AuditOutcome} {read : Except PyError α}
    {next : α → Preparation} (other : (status == 200) = false) (rest : ∀ value, Quiet (next value)) :
    Quiet (context.afterReadWith status outcomeOf read next) := by
  cases read with
  | ok value => exact rest value
  | error error =>
    cases error with
    | storcli error => exact quiet_audited _ _ other
    | _ => exact quiet_answer rfl

omit [PyText] in
theorem quiet_afterRead {α : Type} {outcomeOf : StorcliError → AuditOutcome} {read : Except PyError α}
    {next : α → Preparation} (rest : ∀ value, Quiet (next value)) : Quiet (context.afterRead outcomeOf read next) :=
  quiet_afterReadWith rfl rest

omit [PyText] in
theorem quiet_ite {condition : Prop} [Decidable condition] {first second : Preparation} (yes : Quiet first)
    (no : Quiet second) : Quiet (if condition then first else second) := by
  split_ifs
  · exact yes
  · exact no

omit [PyText] in
theorem quiet_runLocate (action : LocateAction) : Quiet (runLocate context action) :=
  quiet_ite (quiet_reject _ rfl) trivial

theorem quiet_runAdvancedDriveAction (action : AdvancedDriveAction) (readings : DriveReadings) (hasRequestedDg : Bool) :
    Quiet (runAdvancedDriveAction context action readings hasRequestedDg) := by
  unfold runAdvancedDriveAction
  split
  · exact quiet_failure rfl
  · apply quiet_ite (quiet_failure rfl)
    apply quiet_ite (quiet_failure rfl)
    apply quiet_ite (quiet_failure rfl)
    apply quiet_ite (quiet_failure rfl)
    apply quiet_afterRead
    intro live
    apply quiet_ite (quiet_failure rfl)
    exact quiet_ite (quiet_failure rfl) trivial

theorem quiet_runReplaceStep (step : ReplaceStep) (readings : DriveReadings) :
    Quiet (runReplaceStep context step readings) := by
  unfold runReplaceStep
  split
  · exact quiet_failure rfl
  · apply quiet_ite (quiet_failure rfl)
    apply quiet_ite (quiet_ite quiet_preview (quiet_failure rfl))
    apply quiet_ite (quiet_failure rfl)
    apply quiet_afterRead
    intro live
    apply quiet_ite (quiet_failure rfl)
    exact quiet_ite (quiet_failure rfl) trivial

theorem quiet_driveReplaceInsert (readings : DriveReadings) (lastAudit : Option String)
    (topology : Option SlotTopology) : Quiet (driveReplaceInsert context readings lastAudit topology) := by
  unfold driveReplaceInsert
  split
  · exact quiet_failure rfl
  · apply quiet_ite (quiet_failure rfl)
    apply quiet_ite (quiet_failure rfl)
    apply quiet_ite (quiet_failure rfl)
    split
    · exact quiet_failure rfl
    · apply quiet_ite (quiet_failure rfl)
      apply quiet_ite quiet_preview
      apply quiet_ite (quiet_failure rfl)
      apply quiet_afterRead
      intro live
      apply quiet_ite (quiet_failure rfl)
      exact quiet_ite (quiet_failure rfl) trivial

omit [PyText] in
theorem jsonResponse_reportsSuccess (renderable : Bool) {response : RouteResponse}
    (other : response.reportsSuccess = false) : (jsonResponse renderable response).reportsSuccess = false := by
  cases renderable with
  | false => rfl
  | true => exact other

/-- Without the header a refusal keeps its status. -/
theorem quiet_prepareOperation (action : OperationAction) {request : OperationRequest} (plain : request.hxRequest = false)
    (status : Except PyError OperationStatus) : Quiet (prepareOperation context action request status) := by
  have kept (statusCode : ℕ) : request.rejectionStatus statusCode = statusCode := if_neg (by simp [plain])
  unfold prepareOperation
  simp only [kept]
  apply quiet_ite (quiet_reject _ rfl)
  apply quiet_afterReadWith rfl
  intro status
  cases action with
  | start => exact quiet_ite trivial (quiet_audited _ _ (jsonResponse_reportsSuccess _ rfl))
  | stop => exact quiet_ite trivial (quiet_audited _ _ (jsonResponse_reportsSuccess _ rfl))
  | mode => exact quiet_ite (quiet_audited _ _ rfl) trivial

omit [PyText] in
theorem quiet_afterBody {request : OperationRequest} {next : Preparation} (plain : request.hxRequest = false)
    (rest : Quiet next) : Quiet (afterBody request next) := by
  have kept : request.rejectionStatus 400 = 400 := if_neg (by simp [plain])
  unfold afterBody
  split
  · exact rest
  · rw [kept]
    exact quiet_answer (jsonResponse_reportsSuccess _ rfl)
  · exact quiet_answer rfl

omit [PyText] in
theorem quiet_prepareForeignWrite (readings : ForeignReadings) : Quiet (prepareForeignWrite context readings) := by
  apply quiet_ite
  · exact quiet_afterRead fun _ => quiet_preview
  · exact quiet_ite (quiet_reject _ rfl) trivial

omit [PyText] in
theorem quiet_runForeignConfig (readings : ForeignReadings) (action : ForeignConfigAction) :
    Quiet (runForeignConfig context readings action) := by
  cases action with
  | importForeign =>
    apply quiet_afterRead
    intro live
    apply quiet_ite (quiet_reject _ rfl)
    exact quiet_ite (quiet_reject _ rfl) (quiet_prepareForeignWrite readings)
  | clear =>
    apply quiet_ite (quiet_reject _ rfl)
    apply quiet_ite (quiet_reject _ rfl)
    apply quiet_afterRead
    intro live
    apply quiet_ite (quiet_reject _ rfl)
    exact quiet_ite (quiet_reject _ rfl) (quiet_prepareForeignWrite readings)

/-- The request header that turns refusals into a 200; only patrol read and the consistency check read it. -/
def HandlerInput.hxRequest : HandlerInput → Bool
  | patrolRead _ request _ _ => request.hxRequest
  | consistencyCheck _ request _ _ => request.hxRequest
  | _ => false

/-- Without that header no handler dispatches anything or reports a success before its write. -/
theorem quiet_prepare {input : HandlerInput} (plain : input.hxRequest = false) : Quiet (input.prepare context) := by
  cases input with
  | locate action => exact quiet_runLocate action
  | advancedDriveAction action readings hasRequestedDg => exact quiet_runAdvancedDriveAction action readings hasRequestedDg
  | replaceStep step readings verification => exact quiet_runReplaceStep step readings
  | replaceInsert readings lastAudit topology => exact quiet_driveReplaceInsert readings lastAudit topology
  | patrolRead action request status refresh =>
    exact quiet_ite (quiet_afterBody plain (quiet_prepareOperation _ plain status)) (quiet_prepareOperation _ plain status)
  | consistencyCheck action request status refresh =>
    exact quiet_ite (quiet_afterBody plain (quiet_prepareOperation _ plain status)) (quiet_prepareOperation _ plain status)
  | buzzer action => exact quiet_ite trivial (quiet_reject _ rfl)
  | foreignConfig action readings => exact quiet_runForeignConfig readings action

end Prepare

/-! ## From the write on -/

section Write

variable {context : WriteContext} {input : HandlerInput}

/-- An answer that reports a success stands for a committed event of a success, and a dispatched write leaves an event
or is answered with the failure of the audit. -/
def AuditsDispatch (result : HandlerResult) : Prop :=
  (result.response.reportsSuccess = true → .succeeded ∈ result.audits) ∧
    (result.dispatched = true → result.audits ≠ [] ∨ result.response = .auditPersistenceFailure)

instance (result : HandlerResult) : Decidable (AuditsDispatch result) :=
  inferInstanceAs (Decidable ((_ → _) ∧ (_ → _)))

/-- The write is accepted: its process exits with zero and the controller confirms. -/
def WriteContext.Accepted (context : WriteContext) : Prop :=
  ∃ payload, awaitProcess context.useSudo true context.process = .ok payload ∧ ensureCommandSucceeded payload = .ok ()

/-- The process of the read that verifies a replacement step. -/
def HandlerInput.verification? : HandlerInput → Option ProcessOutcome
  | replaceStep _ _ verification => some verification
  | _ => none

/-- Where the write is reached and its process starts, the write and the verification behind an accepted write raise
nothing but a `StorcliError`, and the audit event is saved or the payload can be put into the response. -/
def Reported (context : WriteContext) (input : HandlerInput) : Prop :=
  input.prepare context = .proceed → context.preflight = .ok () → context.process.spawned = true →
    unreadable context.useSudo context.process = false ∧
    (context.Accepted → ∀ verification ∈ input.verification?, unreadable context.useSudo verification = false) ∧
    (context.saved = true ∨
      ∀ payload, awaitProcess context.useSudo true context.process = .ok payload → payload.renderable = true)

/-- The status lets the action go on. -/
def OperationAction.allows (status : OperationStatus) : OperationAction → Bool
  | start => decide (Py.lower status.state = "stopped" ∨ Py.lower status.state = "ready")
  | stop => status.isRunning
  | mode => decide (Py.lower status.state ≠ "unknown")

/-- The write ends in a `StorcliError`: its preflight or its process raises one, or the controller does not confirm. -/
def WriteContext.Refused (context : WriteContext) : Prop :=
  (∃ error, context.preflight = .error (.storcli error)) ∨ context.preflight = .ok () ∧
    ((∃ error, awaitProcess context.useSudo true context.process = .error (.storcli error)) ∨
      ∃ payload, awaitProcess context.useSudo true context.process = .ok payload ∧
        ensureCommandSucceeded payload ≠ .ok ())

/-- Nothing is refused between the body and the response: the window is open, the status can be read and allows the
action, and the write goes through. A refusal that shows a status with a lone surrogate cannot be rendered. -/
structure Unrefused (context : WriteContext) (action : OperationAction) (status : Except PyError OperationStatus) :
    Prop where
  maintenance : context.maintenanceMode = true
  readable : ∀ error, status ≠ .error (.storcli error)
  allowed : ∀ current, status = .ok current → action.allows current = true ∨ action ≠ .mode ∧ current.renderable = false
  sent : ∀ current, status = .ok current → action.allows current = true → ¬context.Refused

/-- A 200 to an operation tells no refusal: its body is accepted, and there is none that the audit log keeps. -/
structure TellsNoRefusal (context : WriteContext) (hasBody : Bool) (action : OperationAction) (body : RequestBody)
    (status : Except PyError OperationStatus) : Prop where
  accepted : hasBody = true → ∀ detail, body = .rejected detail → detail.renderable = false
  refusal : context.saved = true → (hasBody = true → body = .accepted) → Unrefused context action status

/-- With the header patrol read and the consistency check answer every refusal with 200. -/
def Unmasked (context : WriteContext) : HandlerInput → Prop
  | .patrolRead action request status _ => request.hxRequest = true →
    TellsNoRefusal context action.hasBody action.operation request.body status
  | .consistencyCheck action request status _ => request.hxRequest = true →
    TellsNoRefusal context action.hasBody action.operation request.body status
  | _ => True

omit [PyText] in
theorem auditsDispatch_of_quiet {result : HandlerResult} (quiet : Quiet (.answered result)) : AuditsDispatch result := by
  refine ⟨fun success => ?_, fun dispatched => ?_⟩
  · rw [quiet.2] at success
    cases success
  · rw [quiet.1] at dispatched
    cases dispatched

omit [PyText] in
/-- An audited answer before the write. -/
theorem audited_auditsDispatch_iff {outcome : AuditOutcome} {response : RouteResponse} (failed : outcome ≠ .succeeded) :
    AuditsDispatch (audited context.saved outcome false response none) ↔
      (context.saved = true → response.reportsSuccess = false) := by
  unfold audited
  split_ifs with saved _
  · constructor
    · intro audits _
      by_contra reports
      have member := audits.1 (Bool.not_eq_false _ |>.mp reports)
      exact failed (List.mem_singleton.mp member).symm
    · intro silent
      refine ⟨fun reports => ?_, nofun⟩
      rw [show response.reportsSuccess = true from reports] at silent
      cases silent saved
  · exact ⟨fun _ same => absurd same saved, fun _ => ⟨nofun, nofun⟩⟩
  · exact ⟨fun _ same => absurd same saved, fun _ => ⟨nofun, nofun⟩⟩

omit [PyText] in
/-- What stands behind the `try` block. -/
theorem finish_auditsDispatch_iff {attempt : Attempt} {outcomeOf : StorcliError → AuditOutcome}
    {refuse : StorcliError → RouteResponse} {answer : Json → RouteResponse} (failed : ∀ error, outcomeOf error ≠ .succeeded) :
    AuditsDispatch (context.finish attempt outcomeOf refuse answer) ↔
      (attempt.dispatched = true → Raises OnlyStorcli attempt.outcome ∧
        (context.saved = true ∨ attempt.result.all Json.renderable = true)) ∧
      (context.saved = true → ∀ error, attempt.outcome = .error (.storcli error) → (refuse error).reportsSuccess = false) := by
  have saving (outcome : AuditOutcome) (response : RouteResponse) :
      AuditsDispatch (audited context.saved outcome attempt.dispatched response attempt.result) ↔
        (attempt.dispatched = true → context.saved = true ∨ attempt.result.all Json.renderable = true) ∧
          (context.saved = true → response.reportsSuccess = true → outcome = .succeeded) := by
    unfold audited
    split_ifs with saved renderable
    · constructor
      · rintro ⟨reports, -⟩
        exact ⟨fun _ => .inl saved, fun _ success => (List.mem_singleton.mp (reports success)).symm⟩
      · rintro ⟨-, reports⟩
        exact ⟨fun success => List.mem_singleton.mpr (reports saved success).symm, fun _ => .inl (List.cons_ne_nil _ _)⟩
    · exact ⟨fun _ => ⟨fun _ => .inr renderable, fun same => absurd same saved⟩, fun _ => ⟨nofun, fun _ => .inr rfl⟩⟩
    · constructor
      · rintro ⟨-, audits⟩
        refine ⟨fun dispatched => ?_, fun same => absurd same saved⟩
        rcases audits dispatched with some | failure
        · exact absurd rfl some
        · cases failure
      · rintro ⟨reported, -⟩
        refine ⟨nofun, fun dispatched => ?_⟩
        rcases reported dispatched with saving | rendering
        · exact absurd saving saved
        · exact absurd rendering renderable
  unfold WriteContext.finish
  split
  · next payload outcome =>
    rw [saving .succeeded (answer payload), outcome]
    have silent : context.saved = true → ∀ error, (.ok payload : Except PyError Json) = .error (.storcli error) →
        (refuse error).reportsSuccess = false := fun _ error same => nomatch same
    rw [and_iff_left (fun _ _ => rfl), and_iff_left silent]
    exact forall_congr' fun _ => (and_iff_right (raises_ok payload)).symm
  · next error outcome =>
    rw [saving (outcomeOf error) (refuse error), outcome]
    have only : Raises OnlyStorcli (.error (.storcli error) : Except PyError Json) := raises_error rfl
    refine and_congr (forall_congr' fun _ => (and_iff_right only).symm) (forall_congr' fun _ => ?_)
    constructor
    · rintro reports other ⟨⟩
      exact Bool.eq_false_iff.mpr fun success => failed error (reports success)
    · intro silent success
      rw [silent error rfl] at success
      cases success
  · next error other outcome =>
    rw [outcome]
    have silent : context.saved = true → ∀ raised, (.error error : Except PyError Json) = .error (.storcli raised) →
        (refuse raised).reportsSuccess = false := fun _ raised same => absurd (Except.error.inj same) (other raised)
    rw [and_iff_left silent]
    constructor
    · rintro ⟨-, audits⟩ dispatched
      rcases audits dispatched with some | failure
      · exact absurd rfl some
      · cases failure
    · intro reported
      refine ⟨nofun, fun dispatched => ?_⟩
      have only : error.isStorcli = true := (reported dispatched).1 error rfl
      cases error with
      | storcli error => exact absurd rfl (other error)
      | _ => cases only

/-- What the check behind an accepted write raises. -/
theorem verify_raises_iff : Raises OnlyStorcli (input.verify context) ↔
    ∀ verification ∈ input.verification?, unreadable context.useSudo verification = false := by
  cases input with
  | replaceStep step readings verification =>
    have escapes := @queryLiveDriveShow_escapes_iff _ context.useSudo
      (WriteRoute.driveSelector readings.enclosureId readings.slotId)
      (slotReference readings.enclosureId readings.slotId) verification
    have only : Raises OnlyStorcli (verifyReplaceStep context step readings verification) ↔
        unreadable context.useSudo verification = false := by
      rw [← Bool.not_eq_true, ← escapes]
      unfold verifyReplaceStep DriveReadings.query
      cases queryLiveDriveShow context.useSudo (WriteRoute.driveSelector readings.enclosureId readings.slotId)
          (slotReference readings.enclosureId readings.slotId) verification with
      | ok observed =>
        constructor
        · rintro - ⟨_, raised, -⟩
          cases raised
        · exact fun _ => raises_ite (raises_ok _) (raises_raise _)
      | error error =>
        cases error with
        | storcli error =>
          refine ⟨?_, fun _ => raises_raise _⟩
          rintro - ⟨_, ⟨⟩, other⟩
          cases other
        | _ =>
          constructor
          · exact fun raises => absurd (raises _ rfl) Bool.false_ne_true
          · exact fun none => absurd ⟨_, rfl, rfl⟩ none
    rw [HandlerInput.verify, only]
    constructor
    · rintro readable _ ⟨⟩
      exact readable
    · intro readable
      exact readable verification rfl
  | _ =>
    constructor
    · rintro - _ ⟨⟩
    · exact fun _ => raises_ok _

/-- The attempt of a write whose preflight passes. -/
theorem attempt_iff (passed : context.preflight = .ok ()) :
    ((context.attempt (input.verify context)).dispatched = true →
      Raises OnlyStorcli (context.attempt (input.verify context)).outcome ∧
        (context.saved = true ∨ (context.attempt (input.verify context)).result.all Json.renderable = true)) ↔
    (context.process.spawned = true → unreadable context.useSudo context.process = false ∧
      (context.Accepted → ∀ verification ∈ input.verification?, unreadable context.useSudo verification = false) ∧
      (context.saved = true ∨
        ∀ payload, awaitProcess context.useSudo true context.process = .ok payload → payload.renderable = true)) := by
  have escapes := @awaitProcess_escapes_iff _ context.useSudo true context.process
  have sent : runStorcli context.useSudo true context.preflight context.process =
      (awaitProcess context.useSudo true context.process, context.process.spawned) := by
    rw [passed]
    rfl
  rw [WriteContext.attempt, sent, ← verify_raises_iff]
  unfold WriteContext.Accepted
  cases process : awaitProcess context.useSudo true context.process with
  | error error =>
    rw [process] at escapes
    have only : Raises OnlyStorcli (.error error : Except PyError Json) ↔
        unreadable context.useSudo context.process = false := by
      rw [← Bool.not_eq_true, ← escapes]
      constructor
      · rintro raises ⟨_, ⟨⟩, other⟩
        rw [show error.isStorcli = true from raises error rfl] at other
        cases other
      · rintro none _ ⟨⟩
        exact Bool.not_eq_false _ |>.mp fun other => none ⟨error, rfl, other⟩
    apply forall_congr'
    intro _
    constructor
    · rintro ⟨raises, -⟩
      refine ⟨only.mp raises, ?_, .inr ?_⟩
      · rintro ⟨_, ⟨⟩, -⟩
      · rintro _ ⟨⟩
    · rintro ⟨readable, -, -⟩
      exact ⟨only.mpr readable, .inr rfl⟩
  | ok payload =>
    rw [process] at escapes
    have readable : unreadable context.useSudo context.process = false := by
      rw [← Bool.not_eq_true, ← escapes]
      rintro ⟨_, ⟨⟩, -⟩
    have only : Raises OnlyStorcli (do ensureCommandSucceeded payload; input.verify context; pure payload) ↔
        (ensureCommandSucceeded payload = .ok () → Raises OnlyStorcli (input.verify context)) := by
      constructor
      · intro raises accepted error raised
        apply raises
        rw [accepted]
        change (input.verify context >>= _) = _
        rw [raised]
        rfl
      · intro raises
        apply (ensureCommandSucceeded_raises payload).bind
        rintro ⟨⟩ accepted
        exact (raises accepted).bind fun _ _ => raises_ok _
    apply forall_congr'
    intro _
    constructor
    · rintro ⟨raises, saving⟩
      refine ⟨readable, ?_, saving.imp_right ?_⟩
      · rintro ⟨_, ⟨⟩, accepted⟩
        exact only.mp raises accepted
      · rintro renderable _ ⟨⟩
        exact renderable
    · rintro ⟨-, raises, saving⟩
      refine ⟨only.mpr fun accepted => raises ⟨payload, rfl, accepted⟩, saving.imp_right ?_⟩
      exact fun renderable => renderable payload rfl

omit [PyText] in
theorem buzzerOutcome_ne_succeeded (error : StorcliError) : buzzerOutcome error ≠ .succeeded := by
  unfold buzzerOutcome
  split_ifs
  · exact nofun
  · exact nofun

omit [PyText] in
theorem buzzerRefusal_reportsSuccess (error : StorcliError) : (buzzerRefusal error).reportsSuccess = false := by
  unfold buzzerRefusal
  split_ifs
  · rfl
  · rfl

/-- Every handler reports its write the same way; a refusal of a write is told as one without the header. -/
theorem write_auditsDispatch_iff : AuditsDispatch (input.write context) ↔
    ((context.attempt (input.verify context)).dispatched = true →
      Raises OnlyStorcli (context.attempt (input.verify context)).outcome ∧
        (context.saved = true ∨ (context.attempt (input.verify context)).result.all Json.renderable = true)) ∧
    (context.saved = true → input.hxRequest = true → ∀ error,
      (context.attempt (input.verify context)).outcome ≠ .error (.storcli error)) := by
  have failed (error : StorcliError) : failedOutcome error ≠ .succeeded := nofun
  have operation (request : OperationRequest) {attempt : Attempt} :
      (∀ error, attempt.outcome = .error (.storcli error) →
        (RouteResponse.failure (request.rejectionStatus 502)).reportsSuccess = false) ↔
      (request.hxRequest = true → ∀ error, attempt.outcome ≠ .error (.storcli error)) := by
    cases hx : request.hxRequest with
    | false =>
      have kept : request.rejectionStatus 502 = 502 := if_neg (by simp [hx])
      rw [kept]
      exact iff_of_true (fun _ _ => rfl) nofun
    | true =>
      have shown : request.rejectionStatus 502 = 200 := if_pos hx
      rw [shown]
      constructor
      · exact fun silent _ error raised => nomatch silent error raised
      · exact fun unraised error raised => absurd raised (unraised rfl error)
  cases input with
  | buzzer _ =>
    rw [HandlerInput.write, finish_auditsDispatch_iff buzzerOutcome_ne_succeeded]
    exact and_congr_right fun _ => iff_of_true (fun _ error _ => buzzerRefusal_reportsSuccess error) fun _ => nofun
  | patrolRead _ request _ _ =>
    rw [HandlerInput.write, finish_auditsDispatch_iff failed]
    exact and_congr_right fun _ => forall_congr' fun _ => operation request
  | consistencyCheck _ request _ _ =>
    rw [HandlerInput.write, finish_auditsDispatch_iff failed]
    exact and_congr_right fun _ => forall_congr' fun _ => operation request
  | _ =>
    rw [HandlerInput.write, finish_auditsDispatch_iff failed]
    exact and_congr_right fun _ => iff_of_true (fun _ _ _ => rfl) fun _ => nofun

/-- Without a verification the `try` block of a write raises a `StorcliError` if and only if the write is refused. -/
theorem attempt_refused_iff : (∃ error, (context.attempt (.ok ())).outcome = .error (.storcli error)) ↔ context.Refused := by
  have refused (raised : PyError) : runStorcli context.useSudo true (.error raised) context.process =
      (.error (notSent raised), false) := rfl
  have sent : runStorcli context.useSudo true (.ok ()) context.process =
      (awaitProcess context.useSudo true context.process, context.process.spawned) := rfl
  unfold WriteContext.attempt WriteContext.Refused
  cases context.preflight with
  | error error =>
    rw [refused]
    constructor
    · rintro ⟨raised, same⟩
      cases error with
      | storcli error => exact .inl ⟨error, rfl⟩
      | _ => cases same
    · rintro (⟨error, ⟨⟩⟩ | ⟨⟨⟩, -⟩)
      exact ⟨_, rfl⟩
  | ok value =>
    rw [sent]
    cases awaitProcess context.useSudo true context.process with
    | error error =>
      constructor
      · rintro ⟨raised, ⟨⟩⟩
        exact .inr ⟨rfl, .inl ⟨raised, rfl⟩⟩
      · rintro (⟨_, ⟨⟩⟩ | ⟨-, ⟨_, ⟨⟩⟩ | ⟨_, ⟨⟩, -⟩⟩)
        exact ⟨_, rfl⟩
    | ok payload =>
      have only := ensureCommandSucceeded_raises payload
      cases accepted : ensureCommandSucceeded payload with
      | error error =>
        rw [accepted] at only
        have storcli : error.isStorcli = true := only error rfl
        cases error with
        | storcli error =>
          refine iff_of_true ⟨error, ?_⟩ (.inr ⟨rfl, .inr ⟨payload, rfl, ?_⟩⟩)
          · change (ensureCommandSucceeded payload >>= _) = _
            rw [accepted]
            rfl
          · rw [accepted]
            exact nofun
        | _ => cases storcli
      | ok value =>
        constructor
        · rintro ⟨raised, same⟩
          change (ensureCommandSucceeded payload >>= _) = _ at same
          rw [accepted] at same
          cases same
        · rintro (⟨_, ⟨⟩⟩ | ⟨-, ⟨_, ⟨⟩⟩ | ⟨_, ⟨⟩, refused⟩⟩)
          exact absurd accepted refused

/-- A write whose preflight fails dispatches nothing. -/
theorem attempt_of_refused {error : PyError} (refused : context.preflight = .error error) (verify : Except PyError Unit) :
    (context.attempt verify).dispatched = false := by
  rw [WriteContext.attempt, refused]
  rfl

end Write

/-! ## Requests with the header -/

section Masked

variable {context : WriteContext} {hasBody : Bool} {action : OperationAction} {request : OperationRequest}
  {status : Except PyError OperationStatus}

/-- What is answered before the write is audited as it should. -/
def Preparation.Audited : Preparation → Prop
  | .answered result => AuditsDispatch result
  | .proceed => True

/-- In an open window the status of the controller decides: an action that it does not allow is refused. -/
theorem prepareOperation_ok (maintenance : context.maintenanceMode = true) (current : OperationStatus) :
    action.allows current = true ∧ prepareOperation context action request (.ok current) = .proceed ∨
      ¬action.allows current = true ∧ ∃ outcome renderable statusCode, outcome ≠ .succeeded ∧
        (renderable = false ↔ action ≠ .mode ∧ current.renderable = false) ∧
        prepareOperation context action request (.ok current) = .answered (audited context.saved outcome false
          (jsonResponse renderable (.failure (request.rejectionStatus statusCode))) none) := by
  unfold prepareOperation
  rw [maintenance, if_neg (by decide)]
  cases action with
  | start =>
    change _ ∧ (if Py.lower current.state = "stopped" ∨ Py.lower current.state = "ready" then _ else _) = _ ∨ _
    rw [OperationAction.allows, decide_eq_true_iff]
    by_cases allowed : Py.lower current.state = "stopped" ∨ Py.lower current.state = "ready"
    · exact .inl ⟨allowed, if_pos allowed⟩
    · exact .inr ⟨allowed, .rejected "already running", current.renderable, 409, nofun,
        (and_iff_right (by decide)).symm, if_neg allowed⟩
  | stop =>
    rw [OperationAction.allows]
    by_cases allowed : current.isRunning = true
    · exact .inl ⟨allowed, if_pos allowed⟩
    · exact .inr ⟨allowed, .rejected "not running", current.renderable, 409, nofun,
        (and_iff_right (by decide)).symm, if_neg allowed⟩
  | mode =>
    rw [OperationAction.allows, decide_eq_true_iff]
    by_cases unknown : Py.lower current.state = "unknown"
    · exact .inr ⟨not_not.mpr unknown, .failed .commandFailed, true, 502, nofun,
        iff_of_false nofun fun same => same.1 rfl, if_pos unknown⟩
    · exact .inl ⟨unknown, if_neg unknown⟩

theorem prepareOperation_proceed_iff : prepareOperation context action request status = .proceed ↔
    context.maintenanceMode = true ∧ ∃ current, status = .ok current ∧ action.allows current = true := by
  cases opened : context.maintenanceMode with
  | false =>
    unfold prepareOperation
    rw [opened]
    exact iff_of_false nofun fun open_ => nomatch open_.1
  | true =>
    cases status with
    | error error =>
      unfold prepareOperation
      rw [opened]
      cases error <;> exact iff_of_false nofun fun ⟨_, _, same, _⟩ => nomatch same
    | ok current =>
      have only : (∃ other, (.ok current : Except PyError OperationStatus) = .ok other ∧ action.allows other = true) ↔
          action.allows current = true := by
        simp
      rw [only, and_iff_right rfl]
      rcases @prepareOperation_ok _ _ action request opened current with
        ⟨allowed, proceeds⟩ | ⟨refused, _, _, _, -, -, answered⟩
      · exact iff_of_true proceeds allowed
      · rw [answered]
        exact iff_of_false nofun refused

theorem runOperation_proceed_iff : runOperation context hasBody action request status = .proceed ↔
    (hasBody = true → request.body = .accepted) ∧ context.maintenanceMode = true ∧
      ∃ current, status = .ok current ∧ action.allows current = true := by
  unfold runOperation
  cases hasBody with
  | false => rw [if_neg Bool.false_ne_true, prepareOperation_proceed_iff, and_iff_right (fun same => nomatch same)]
  | true =>
    rw [if_pos rfl, afterBody]
    cases request.body with
    | accepted => rw [prepareOperation_proceed_iff, and_iff_right (fun _ => rfl)]
    | rejected detail => exact iff_of_false nofun fun both => nomatch both.1 rfl
    | raised error => exact iff_of_false nofun fun both => nomatch both.1 rfl

omit [PyText] in
theorem jsonResponse_refusal_iff {renderable : Bool} :
    (jsonResponse renderable (.failure 200)).reportsSuccess = false ↔ renderable = false := by
  cases renderable with
  | false => exact iff_of_true rfl rfl
  | true => exact iff_of_false nofun nofun

/-- The answers of the handler behind the body, with the header. -/
theorem prepareOperation_audited_iff (hx : request.hxRequest = true) :
    (prepareOperation context action request status).Audited ↔ (context.saved = true → context.maintenanceMode = true ∧
      (∀ error, status ≠ .error (.storcli error)) ∧
      ∀ current, status = .ok current → action.allows current = true ∨ action ≠ .mode ∧ current.renderable = false) := by
  have shown (statusCode : ℕ) : request.rejectionStatus statusCode = 200 := if_pos hx
  have rejected_ (reason : String) : AuditOutcome.rejected reason ≠ .succeeded := nofun
  have failed (kind : StorcliErrorKind) : AuditOutcome.failed kind ≠ .succeeded := nofun
  have silent : (RouteResponse.failure 200).reportsSuccess = false ↔ False := iff_of_false nofun id
  cases opened : context.maintenanceMode with
  | false =>
    unfold prepareOperation
    rw [opened, shown]
    change AuditsDispatch (audited context.saved _ false _ none) ↔ _
    rw [audited_auditsDispatch_iff (rejected_ _), silent]
    exact forall_congr' fun _ => iff_of_false id fun open_ => nomatch open_.1
  | true =>
    cases status with
    | error error =>
      unfold prepareOperation
      rw [opened, if_neg (by decide)]
      cases error with
      | storcli error =>
        rw [shown]
        change AuditsDispatch (audited context.saved (.failed error.kind) false _ none) ↔ _
        rw [audited_auditsDispatch_iff (failed _), silent]
        exact forall_congr' fun _ => iff_of_false id fun readable => readable.2.1 error rfl
      | _ => exact iff_of_true ⟨nofun, nofun⟩ fun _ => ⟨rfl, nofun, nofun⟩
    | ok current =>
      have only : (∀ other, (.ok current : Except PyError OperationStatus) = .ok other →
          action.allows other = true ∨ action ≠ .mode ∧ other.renderable = false) ↔
          (action.allows current = true ∨ action ≠ .mode ∧ current.renderable = false) := by
        simp
      have readable : ∀ error, (.ok current : Except PyError OperationStatus) ≠ .error (.storcli error) := nofun
      rw [only, and_iff_right rfl, and_iff_right readable]
      rcases @prepareOperation_ok _ _ action request opened current with
        ⟨allowed, proceeds⟩ | ⟨refused, outcome, renderable, statusCode, other, shows, answered⟩
      · rw [proceeds]
        exact iff_of_true trivial fun _ => .inl allowed
      · rw [answered, shown]
        change AuditsDispatch (audited context.saved outcome false _ none) ↔ _
        rw [audited_auditsDispatch_iff other, jsonResponse_refusal_iff, shows, or_iff_right refused]

/-- The answers before the write to a request with the header. -/
theorem runOperation_audited_iff (hx : request.hxRequest = true) :
    (runOperation context hasBody action request status).Audited ↔
      (hasBody = true → ∀ detail, request.body = .rejected detail → detail.renderable = false) ∧
      (context.saved = true → (hasBody = true → request.body = .accepted) → context.maintenanceMode = true ∧
        (∀ error, status ≠ .error (.storcli error)) ∧
        ∀ current, status = .ok current → action.allows current = true ∨ action ≠ .mode ∧ current.renderable = false) := by
  unfold runOperation
  cases hasBody with
  | false =>
    rw [if_neg Bool.false_ne_true, prepareOperation_audited_iff hx]
    simp
  | true =>
    rw [if_pos rfl, afterBody]
    cases request.body with
    | accepted =>
      rw [prepareOperation_audited_iff hx]
      simp
    | rejected detail =>
      have shown : request.rejectionStatus 400 = 200 := if_pos hx
      rw [shown]
      have rendered : AuditsDispatch ⟨jsonResponse detail.renderable (.failure 200), [], false⟩ ↔
          detail.renderable = false := by
        rw [← @jsonResponse_refusal_iff detail.renderable, ← Bool.not_eq_true]
        exact ⟨fun audits reports => List.not_mem_nil (audits.1 reports), fun silent => ⟨fun reports => absurd reports silent, nofun⟩⟩
      refine rendered.trans ⟨fun hidden => ⟨?_, fun _ accepted => nomatch accepted rfl⟩, fun both => both.1 rfl detail rfl⟩
      rintro - _ ⟨⟩
      exact hidden
    | raised error => exact iff_of_true ⟨nofun, nofun⟩ ⟨fun _ _ => nofun, fun _ accepted => nomatch accepted rfl⟩

/-- The handlers of patrol read and the consistency check, with the header. -/
theorem tellsNoRefusal_of_answered (hx : request.hxRequest = true) {result : HandlerResult}
    (answered : runOperation context hasBody action request status = .answered result) :
    AuditsDispatch result ↔ TellsNoRefusal context hasBody action request.body status := by
  have audited := @runOperation_audited_iff _ context hasBody action request status hx
  rw [answered] at audited
  refine audited.trans ⟨fun both => ⟨both.1, fun saved accepted => ?_⟩, fun tells => ⟨tells.accepted, fun saved accepted => ?_⟩⟩
  · obtain ⟨maintenance, readable, allowed⟩ := both.2 saved accepted
    refine ⟨maintenance, readable, allowed, fun current read allows => ?_⟩
    have proceeds := runOperation_proceed_iff.mpr ⟨accepted, maintenance, current, read, allows⟩
    rw [answered] at proceeds
    cases proceeds
  · obtain ⟨maintenance, readable, allowed, -⟩ := tells.refusal saved accepted
    exact ⟨maintenance, readable, allowed⟩

theorem tellsNoRefusal_of_proceed (proceeds : runOperation context hasBody action request status = .proceed) :
    TellsNoRefusal context hasBody action request.body status ↔ (context.saved = true → ¬context.Refused) := by
  obtain ⟨accepted, maintenance, current, rfl, allows⟩ := runOperation_proceed_iff.mp proceeds
  constructor
  · intro tells saved
    exact (tells.refusal saved accepted).sent current rfl allows
  · intro sent
    refine ⟨fun some_ detail rejected => ?_, fun saved _ => ⟨maintenance, nofun, ?_, fun _ _ _ => sent saved⟩⟩
    · rw [accepted some_] at rejected
      cases rejected
    · rintro _ ⟨⟩
      exact .inl allows

/-- A handler that answers before its write. -/
theorem unmasked_of_answered {input : HandlerInput} {result : HandlerResult}
    (answered : input.prepare context = .answered result) : AuditsDispatch result ↔ Unmasked context input := by
  by_cases hx : input.hxRequest = true
  · cases input with
    | patrolRead action request status refresh =>
      exact (tellsNoRefusal_of_answered hx answered).trans ⟨fun tells _ => tells, fun tells => tells hx⟩
    | consistencyCheck action request status refresh =>
      exact (tellsNoRefusal_of_answered hx answered).trans ⟨fun tells _ => tells, fun tells => tells hx⟩
    | _ => cases hx
  · have quiet := @quiet_prepare _ context input (Bool.eq_false_iff.mpr hx)
    rw [answered] at quiet
    refine iff_of_true (auditsDispatch_of_quiet quiet) ?_
    cases input with
    | patrolRead => exact fun same => absurd same hx
    | consistencyCheck => exact fun same => absurd same hx
    | _ => trivial

/-- A handler that goes on to its write. -/
theorem unmasked_of_proceed {input : HandlerInput} (proceeds : input.prepare context = .proceed) :
    (context.saved = true → input.hxRequest = true → ∀ error,
      (context.attempt (input.verify context)).outcome ≠ .error (.storcli error)) ↔ Unmasked context input := by
  have unverified : (∀ raised, (context.attempt (.ok ())).outcome ≠ .error (.storcli raised)) ↔ ¬context.Refused := by
    rw [← attempt_refused_iff, not_exists]
  cases input with
  | patrolRead action request status refresh =>
    change (context.saved = true → request.hxRequest = true → ∀ raised,
      (context.attempt (.ok ())).outcome ≠ .error (.storcli raised)) ↔ (request.hxRequest = true → _)
    rw [unverified, tellsNoRefusal_of_proceed proceeds]
    exact ⟨fun sent hx saved => sent saved hx, fun sent saved hx => sent hx saved⟩
  | consistencyCheck action request status refresh =>
    change (context.saved = true → request.hxRequest = true → ∀ raised,
      (context.attempt (.ok ())).outcome ≠ .error (.storcli raised)) ↔ (request.hxRequest = true → _)
    rw [unverified, tellsNoRefusal_of_proceed proceeds]
    exact ⟨fun sent hx saved => sent saved hx, fun sent saved hx => sent hx saved⟩
  | _ => exact iff_of_true (fun _ same => nomatch same) trivial

end Masked

section Unaudited

omit [PyText]

/-- The status of an accepted command. -/
def acceptedStatus : String × Json :=
  ("Command Status", .obj [("Controller", .int 0), ("Status", .str "Success")])

/-- The live read of slot 252:4 in a state. -/
def liveDrive (state : String) : Json :=
  .obj [("Controllers", .arr [.obj [acceptedStatus, ("Response Data", .obj [
    ("Drive /c0/e252/s4", .arr [.obj [("EID:Slt", .str "252:4"), ("State", .str state)]]),
    ("Drive /c0/e252/s4 - Detailed Information", .obj [
      ("Drive /c0/e252/s4 Device attributes", .obj [("SN", .str "S1")])])])]])]

def printed (payload : Json) : ProcessOutcome := .exited 0 (.json payload) ""

/-- Both modes on, a passed preflight and an accepted write. -/
def acceptedWrite (saved : Bool) : WriteContext where
  useSudo := true
  maintenanceMode := true
  destructiveMode := true
  preflight := .ok ()
  process := printed (.obj [("Controllers", .arr [.obj [acceptedStatus]])])
  saved := saved

def missingReadings : DriveReadings where
  enclosureId := 252
  slotId := 4
  serialNumber := "S1"
  dryRun := false
  snapshot := some ⟨"Offln", "S1"⟩
  live := printed (liveDrive "Offln")

end Unaudited

end MegaraidDashboard.Web
