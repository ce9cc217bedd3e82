import Mathlib.Data.Nat.Notation

/-! # The Locate activity setup

`operate` as a machine that stops wherever the host answers. The receipt file is all that a later run knows of an
earlier one; the numbers of the runs and what they dispatched are a history beside it that no step reads.
-/

namespace MegaraidDashboard.Scripts.LocateActivity

/-! ## Receipts -/

inductive LocateMode where
  | on
  | off
deriving DecidableEq, Repr

inductive OperateAction where
  | plan
  | apply
  | status
  | restore
deriving DecidableEq, Repr

inductive ReceiptState where
  | prepared
  | dispatching
  | uncertain
  | notSent
  | verifiedPendingAudit
  | verified
  | restored
deriving DecidableEq, Repr

/-- The keys of a receipt that a later run reads of it when it is carried as `restore_of`. -/
structure ReceiptCore where
  state : ReceiptState
  before : LocateMode
  target : LocateMode
  controllerSha256 : String
  binarySha256 : String
  writeDispatched : Bool
  commandConfirmed : Bool
deriving DecidableEq, Repr

/-- A receipt; before the first `phase` the state of an intent is never seen. -/
structure Receipt extends ReceiptCore where
  topologySha256 : String
  auditId : Option ℕ
  restoreOf : Option ReceiptCore
deriving DecidableEq, Repr

/-- The receipt file, with the run that wrote it. -/
structure StoredReceipt where
  receipt : Receipt
  run : ℕ
deriving DecidableEq, Repr

def pinnedSha256 : String := "642fff8a3976dbc85406d9f7e8f5f5ce4ceab2753ac68cab5245888b281c8547"

/-- `COMMANDS` -/
def locateCommands : List String := ["/c0 set activityforlocate=on J", "/c0 set activityforlocate=off J"]

/-! ## Answers of the host -/

/-- A call of the host returns or raises, or the process is gone before it is back. -/
inductive Answer (α : Type) where
  | ok (value : α)
  | raised
  | killed
deriving DecidableEq, Repr

/-- `phase` writes the receipt first and its copies after it: it is stored, or not, when the call fails. -/
inductive PersistAnswer where
  | done
  | raised (stored : Bool)
  | killed (stored : Bool)
deriving DecidableEq, Repr

def PersistAnswer.stores : PersistAnswer → Bool
  | done => true
  | raised stored => stored
  | killed stored => stored

/-- The private approval and the policy of the rollout. -/
structure ApprovalRead where
  commands : List String
  serialMatches : Bool
  controllerSha256 : String
deriving DecidableEq, Repr

/-- What the reads of a run before its intent return; `none` and `false` stand for an exception. -/
structure OperateReads where
  guarded : Bool
  approval : Option ApprovalRead
  observation : Option (LocateMode × String)
  receiptReadable : Bool
  maintenance : Bool
deriving DecidableEq, Repr

/-- How a run ends; a run that an exception of the host ends says nothing. -/
inductive OperateOutcome where
  | observed (mode : LocateMode) (receiptState : Option ReceiptState)
  | planVerified (mode : LocateMode)
  | already (mode : LocateMode)
  | completed (state : ReceiptState)
  | refused (message : String)
  /-- An exception of the host before the intent, or the end of the process. -/
  | interrupted
deriving DecidableEq, Repr

/-! ## The checks before the intent -/

/-- The receipt lets another write through. -/
def receiptFree : Option Receipt → Bool
  | none => true
  | some receipt => receipt.state == .verified || receipt.state == .restored ||
      receipt.state == .notSent && !receipt.writeDispatched

/-- The change that a restore undoes. -/
def restoreOriginal : Option Receipt → Option ReceiptCore
  | none => none
  | some receipt => if receipt.state = .notSent then receipt.restoreOf else some receipt.toReceiptCore

/-- The tests of the change. -/
def restorable (controllerSha256 : String) (original : ReceiptCore) : Bool :=
  original.state == .verified && original.before == .off && original.target == .on && original.commandConfirmed &&
    original.controllerSha256 == controllerSha256 && original.binarySha256 == pinnedSha256

/-- The intent of a run, with the action that it belongs to. -/
structure Operation where
  action : OperateAction
  intent : Receipt
deriving DecidableEq, Repr

/-- `operate` up to the first audit. -/
def operateEntry (file : Option Receipt) (reads : OperateReads) (action : OperateAction) :
    Except OperateOutcome Operation :=
  if !reads.guarded then .error .interrupted
  else match reads.approval with
  | none => .error .interrupted
  | some approval =>
    if !(approval.commands.all (locateCommands.contains ·) && locateCommands.all (approval.commands.contains ·) &&
        approval.serialMatches) then
      .error (.refused "Private approval differs from the approved single property")
    else match reads.observation with
    | none => .error .interrupted
    | some (mode, topology) =>
      if file.isSome && !reads.receiptReadable then .error .interrupted
      else if file.any fun receipt =>
          receipt.controllerSha256 != approval.controllerSha256 || receipt.binarySha256 != pinnedSha256 then
        .error (.refused "Receipt identity differs")
      else if action = .status then .error (.observed mode (file.map (·.state)))
      else if action = .plan then .error (.planVerified mode)
      else
        let target := if action = .apply then LocateMode.on else .off
        if mode = target then .error (.already target)
        else if !receiptFree file then .error (.refused "Earlier attempt needs inspection; no automatic retry")
        else
          let original := restoreOriginal file
          if action = .restore ∧ !original.any (restorable approval.controllerSha256) then
            .error (.refused "No matching verified change to restore")
          else if !reads.maintenance then .error .interrupted
          else .ok {
            action := action
            intent := {
              state := .prepared
              before := mode
              target := target
              controllerSha256 := approval.controllerSha256
              binarySha256 := pinnedSha256
              writeDispatched := false
              commandConfirmed := false
              topologySha256 := topology
              auditId := none
              restoreOf := if action = .restore then original else none } }

/-! ## The machine -/

inductive OperatePhase where
  | idle
  /-- Before the audit of the intent. -/
  | auditing (operation : Operation)
  /-- Before the receipt `prepared`. -/
  | preparing (operation : Operation)
  /-- In `run_storcli`, before `before_write`. -/
  | executing (operation : Operation)
  /-- In `before_write`, before its guard. -/
  | guarding (operation : Operation)
  /-- In `before_write`, before the receipt `dispatching`. -/
  | dispatching (operation : Operation)
  /-- In `run_storcli`, before the process starts. -/
  | spawning (operation : Operation)
  /-- The process runs. -/
  | sent (operation : Operation)
  /-- Before the readback. -/
  | reading (operation : Operation)
  /-- In the handler of an exception, before its receipt. -/
  | failing (operation : Operation) (confirmed : Bool)
  /-- In the handler of an exception, before its audit. -/
  | failed
  /-- Before the receipt `verified_pending_audit`. -/
  | settling (operation : Operation)
  /-- Before the audit of the success. -/
  | succeeding (operation : Operation)
  /-- Before the last receipt. -/
  | finishing (operation : Operation)
deriving DecidableEq, Repr

/-- A write that was sent, with what its run learned of it. -/
structure Dispatch where
  run : ℕ
  before : LocateMode
  target : LocateMode
  confirmed : Bool
  verified : Bool
deriving DecidableEq, Repr

/-- The number of the newest run, the writes that were sent, the newest first, and the runs that recorded a settled
outcome. -/
structure History where
  run : ℕ
  dispatches : List Dispatch
  settled : List ℕ
deriving DecidableEq, Repr

/-- What a run learns of the write that it sent. -/
def History.note (history : History) (update : Dispatch → Dispatch) : History :=
  { history with dispatches := match history.dispatches with
    | [] => []
    | dispatch :: older => update dispatch :: older }

/-- The receipt file, the running call and the history. -/
structure LocateRun where
  file : Option StoredReceipt
  phase : OperatePhase
  outcome : Option OperateOutcome
  history : History
deriving DecidableEq, Repr

def LocateRun.initial : LocateRun := ⟨none, .idle, none, ⟨0, [], []⟩⟩

inductive OperateStep where
  | begin (action : OperateAction) (reads : OperateReads)
  | audit (answer : Answer ℕ)
  | persist (answer : PersistAnswer)
  /-- `run_storcli` reaches `before_write`. -/
  | execute (answer : Answer Unit)
  | guard (answer : Answer Unit)
  /-- The process starts. -/
  | spawn (answer : Answer Unit)
  /-- The command succeeds. -/
  | result (answer : Answer Unit)
  | observe (answer : Answer (LocateMode × String))
deriving DecidableEq, Repr

namespace LocateRun

/-- The run ends without another word. -/
def stop (run : LocateRun) (outcome : OperateOutcome) : LocateRun :=
  { run with phase := .idle, outcome := some outcome }

def store (run : LocateRun) (receipt : Receipt) (stores : Bool) : LocateRun :=
  if stores then { run with file := some ⟨receipt, run.history.run⟩ } else run

/-- `phase`, with what follows a success and an exception; `settles` says that the receipt settles the run. -/
def persist (run : LocateRun) (receipt : Receipt) (settles : Bool) (answer : PersistAnswer) (next failure : OperatePhase) :
    LocateRun :=
  let stored := run.store receipt answer.stores
  let stored := if settles && answer.stores then
      { stored with history := { run.history with settled := run.history.run :: run.history.settled } }
    else stored
  match answer with
  | .done => { stored with phase := next }
  | .raised _ => { stored with phase := failure }
  | .killed _ => stored.stop .interrupted

/-- A call whose exception goes to the handler, or ends the run outside of it. -/
def proceed {α : Type} (run : LocateRun) (answer : Answer α) (next : α → LocateRun) (failure : OperatePhase) : LocateRun :=
  match answer with
  | .ok value => next value
  | .raised => { run with phase := failure }
  | .killed => run.stop .interrupted

/-- `operate`, one answer at a time; a label that the phase does not expect does nothing. -/
def step (run : LocateRun) (label : OperateStep) : LocateRun :=
  match run.phase, label with
  | .idle, .begin action reads =>
    let run := { run with history := { run.history with run := run.history.run + 1 }, outcome := none }
    match operateEntry (run.file.map (·.receipt)) reads action with
    | .error outcome => run.stop outcome
    | .ok operation => { run with phase := .auditing operation }
  | .auditing operation, .audit answer =>
    run.proceed answer
      (fun auditId => { run with
        phase := .preparing { operation with intent := { operation.intent with auditId := some auditId } } })
      .idle
  | .preparing operation, .persist answer =>
    let intent := { operation.intent with state := .prepared }
    run.persist intent false answer (.executing { operation with intent := intent }) .idle
  | .executing operation, .execute answer =>
    run.proceed answer (fun _ => { run with phase := .guarding operation }) (.failing operation false)
  | .guarding operation, .guard answer =>
    -- the receipt in memory says `dispatching` before it is written
    run.proceed answer
      (fun _ => { run with
        phase := .dispatching { operation with
          intent := { operation.intent with state := .dispatching, writeDispatched := true } } })
      (.failing operation false)
  | .dispatching operation, .persist answer =>
    run.persist operation.intent false answer (.spawning operation) (.failing operation false)
  | .spawning operation, .spawn answer =>
    run.proceed answer
      (fun _ => { run with
        phase := .sent operation
        history := { run.history with
          dispatches := ⟨run.history.run, operation.intent.before, operation.intent.target, false, false⟩ ::
            run.history.dispatches } })
      (.failing operation false)
  | .sent operation, .result answer =>
    run.proceed answer
      (fun _ => { run with
        phase := .reading operation
        history := run.history.note fun dispatch => { dispatch with confirmed := true } })
      (.failing operation false)
  | .reading operation, .observe answer =>
    run.proceed answer
      (fun (observed, topology) =>
        if observed ≠ operation.intent.target ∨ topology ≠ operation.intent.topologySha256 then
          { run with phase := .failing operation true }
        else { run with
          phase := .settling operation
          history := run.history.note fun dispatch => { dispatch with verified := true } })
      (.failing operation true)
  | .failing operation confirmed, .persist answer =>
    let state := if operation.intent.writeDispatched then ReceiptState.uncertain else .notSent
    run.persist { operation.intent with state := state, commandConfirmed := confirmed } false answer .failed .idle
  | .failed, .audit answer =>
    run.proceed answer (fun _ => run.stop (.refused "Inspect the durable receipt and audit; no automatic retry")) .idle
  | .settling operation, .persist answer =>
    let intent := { operation.intent with state := .verifiedPendingAudit, commandConfirmed := true }
    run.persist intent false answer (.succeeding { operation with intent := intent }) .idle
  | .succeeding operation, .audit answer =>
    run.proceed answer (fun _ => { run with phase := .finishing operation }) .idle
  | .finishing operation, .persist answer =>
    let state := if operation.action = .apply then ReceiptState.verified else .restored
    let ended := run.persist { operation.intent with state := state } true answer .idle .idle
    if answer = .done then { ended with outcome := some (.completed state) } else ended
  | _, _ => run

end LocateRun

end MegaraidDashboard.Scripts.LocateActivity
