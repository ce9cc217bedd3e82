import Mathlib.Logic.Function.Basic
import MegaraidDashboard.Model.Web.ReplacementAudit

/-! # Concurrent replace/insert requests

The requests of one slot share the audit table. `drive_replace_insert` reads the gate, then the topology and
the live drive, sends the write and records it last; between two of these steps any other request may run.
-/

namespace MegaraidDashboard.Web

open Db

/-! ## The audit table -/

/-- The rows of `events`, in the order of their identifiers. -/
structure AuditTable where
  rows : List Event
  ordered : rows.Pairwise fun first second => first.id < second.id

/-- The identifier of the next row. -/
def AuditTable.nextId (table : AuditTable) : ℕ := (table.rows.map (·.id)).foldr max 0 + 1

theorem AuditTable.lt_nextId {table : AuditTable} {row : Event} (member : row ∈ table.rows) :
    row.id < table.nextId :=
  Nat.lt_succ_of_le (List.le_max_of_le' 0 (List.mem_map_of_mem member) le_rfl)

/-- The insertion of a row; the table chooses its identifier. -/
def AuditTable.insert (table : AuditTable) (row : Event) : AuditTable where
  rows := table.rows ++ [{ row with id := table.nextId }]
  ordered := by
    apply List.pairwise_append.mpr
    refine ⟨table.ordered, List.pairwise_singleton _ _, ?_⟩
    intro first member second last
    rw [List.mem_singleton.mp last]
    exact AuditTable.lt_nextId member

/-- The row of `record_operator_action`. -/
def operatorAction (username message : String) (now : ℤ) (afterJson : Option Payload) : Event where
  id := 0
  occurredAt := now
  severity := .info
  category := .operatorAction
  subject := .operatorAction
  summary := message
  beforeJson := none
  afterJson := afterJson
  operatorUsername := some username
  notifiedAt := none

/-! ## One request -/

/-- The body of the request; the path and the query parameter are already validated. -/
structure InsertRequest where
  serialNumber : String
  dryRun : Bool
  username : String

/-- `_SlotTopology` -/
structure SlotTopology where
  dg : ℕ
  array : ℕ
  row : ℕ

/-- The bounds of `build_insert_replacement_command`. -/
def SlotTopology.accepted (topology : SlotTopology) : Bool :=
  decide (topology.dg ≤ 63) && decide (topology.array ≤ 63) && decide (topology.row ≤ 255)

/-- What `_query_live_drive_show` returns of a drive. -/
structure LiveDrive where
  serialNumber : String
  state : String

/-- `message.split()` -/
def splitWords (text : String) : List String :=
  ((text.toList.splitOnP Py.isSpace).filter fun word => !word.isEmpty).map String.ofList

def serialAfter : List String → Option String
  | "serial" :: number :: _ => some number
  | _ :: rest => serialAfter rest
  | [] => none

/-- `_extract_serial_from_audit` -/
def extractSerialFromAudit (message : String) : Option String := serialAfter (splitWords message)

inductive InsertPhase where
  | arrived
  /-- The gate was open; the row is the last audit event of the slot. -/
  | gatePassed (missing : Event)
  /-- The live drive is being read. -/
  | prechecking (missing : Event) (topology : SlotTopology)
  /-- `run_storcli` has been called and has sent no write yet. -/
  | writing (missing : Event) (topology : SlotTopology)
  /-- `run_storcli` has returned or raised, with or without a write sent; the audit event is not written yet. -/
  | auditing (missing : Event) (topology : SlotTopology) (outcome : String) (sent : Bool)
  | ended

/-- From the latest drive of the slot and its last audit event to the serial checks. -/
def InsertRequest.readGate (request : InsertRequest) (snapshotSerial : Option String) (last : Option Event) :
    InsertPhase :=
  match snapshotSerial, last with
  | some snapshot, some event =>
    let outgoing := extractSerialFromAudit event.summary
    if canTransitionStep3 (some event.summary) && outgoing != some request.serialNumber &&
        (snapshot == request.serialNumber || outgoing == some snapshot) then .gatePassed event
    else .ended
  | _, _ => .ended

/-- From the topology of the slot to the modes. -/
def InsertRequest.readTopology (request : InsertRequest) (missing : Event) (topology : Option SlotTopology)
    (maintenanceMode destructiveMode : Bool) : InsertPhase :=
  match topology with
  | some topology =>
    if topology.accepted && !request.dryRun && maintenanceMode && destructiveMode then .prechecking missing topology
    else .ended
  | none => .ended

/-- The checks of the live drive. -/
def InsertRequest.readLive (request : InsertRequest) (missing : Event) (topology : SlotTopology) (live : LiveDrive) :
    InsertPhase :=
  if live.serialNumber == request.serialNumber && live.state == "UGood" then .writing missing topology else .ended

/-- The message of the audit event. -/
def InsertRequest.message (request : InsertRequest) (enclosureId slotId : ℕ) (topology : SlotTopology)
    (outcome : String) : String :=
  insertMessage enclosureId slotId request.serialNumber topology.dg topology.array topology.row outcome

/-! ## The run -/

structure InsertRun (n : ℕ) where
  table : AuditTable
  phase : Fin n → InsertPhase
  /-- For each dispatched insert, the row that had opened its gate. -/
  dispatched : List Event

def InsertRun.initial (n : ℕ) (table : AuditTable) : InsertRun n := ⟨table, fun _ => .arrived, []⟩

inductive InsertStep (n : ℕ) where
  /-- Any other request or service records an event. -/
  | record (row : Event)
  | gate (index : Fin n) (snapshotSerial : Option String)
  | topology (index : Fin n) (topology : Option SlotTopology) (maintenanceMode destructiveMode : Bool)
  /-- `_query_live_drive_show` returns a drive or raises; a failure is recorded with the marker. -/
  | live (index : Fin n) (answer : Except String LiveDrive) (now : ℤ)
  /-- `run_storcli` raises before the write. -/
  | refuse (index : Fin n) (error : String)
  /-- The write is sent; the controller confirms it or `run_storcli` raises. -/
  | dispatch (index : Fin n) (answer : Except String Unit)
  | audit (index : Fin n) (now : ℤ)
  /-- An exception that the handler does not catch ends the request. -/
  | crash (index : Fin n)

namespace InsertRun

variable {n : ℕ}

def setPhase (run : InsertRun n) (index : Fin n) (phase : InsertPhase) : InsertRun n :=
  { run with phase := Function.update run.phase index phase }

/-- `_record_insert_operator_action_sync` -/
def record (run : InsertRun n) (row : Event) : InsertRun n := { run with table := run.table.insert row }

/-- One step of a request or of the rest of the system; a step that is not the request's next one is void. -/
def step (enclosureId slotId : ℕ) (requests : Fin n → InsertRequest) (run : InsertRun n) :
    InsertStep n → InsertRun n
  | .record row => run.record row
  | .gate index snapshotSerial =>
    match run.phase index with
    | .arrived => run.setPhase index ((requests index).readGate snapshotSerial
        (loadLastOperatorActionForSlot true run.table.rows enclosureId slotId))
    | _ => run
  | .topology index topology maintenanceMode destructiveMode =>
    match run.phase index with
    | .gatePassed missing =>
      run.setPhase index ((requests index).readTopology missing topology maintenanceMode destructiveMode)
    | _ => run
  | .live index answer now =>
    match run.phase index, answer with
    | .prechecking missing topology, .ok live =>
      run.setPhase index ((requests index).readLive missing topology live)
    | .prechecking _ topology, .error detail =>
      (run.record (operatorAction (requests index).username ((requests index).message enclosureId slotId topology
        ("failed: storcli precheck failed: " ++ detail)) now (some readOnlyPrecheckMarker))).setPhase index .ended
    | _, _ => run
  | .refuse index error =>
    match run.phase index with
    | .writing missing topology => run.setPhase index (.auditing missing topology ("failed: " ++ error) false)
    | _ => run
  | .dispatch index answer =>
    match run.phase index with
    | .writing missing topology =>
      let outcome := match answer with
        | .ok _ => "succeeded"
        | .error error => "failed: " ++ error
      { run.setPhase index (.auditing missing topology outcome true) with
        dispatched := run.dispatched ++ [missing] }
    | _ => run
  | .audit index now =>
    match run.phase index with
    | .auditing _ topology outcome _ =>
      (run.record (operatorAction (requests index).username
        ((requests index).message enclosureId slotId topology outcome) now none)).setPhase index .ended
    | _ => run
  | .crash index => run.setPhase index .ended

end InsertRun

end MegaraidDashboard.Web
