import MegaraidDashboard.Model.Storcli.Parser

/-! # Running StorCLI

`run_storcli` as a function of what its process does. The Boolean next to the answer says whether the process
was started; everything before that is the preflight of a write.
-/

namespace MegaraidDashboard.Storcli

variable [PyText]

/-! ## The process -/

/-- The output, as `json.loads` takes it. -/
inductive Stdout where
  /-- `JSONDecodeError` -/
  | notJson
  /-- An integer with more digits than the interpreter converts: a plain `ValueError`. -/
  | intTooLarge
  /-- `RecursionError` -/
  | tooDeep
  | json (value : Json)

inductive SpawnError where
  | fileNotFound
  | permission
  | other
deriving DecidableEq, Repr

inductive ProcessOutcome where
  | spawnFailed (error : SpawnError)
  /-- The timeout; `gone` says that the process is already gone when it is killed. -/
  | timedOut (gone : Bool)
  | exited (returncode : ℤ) (stdout : Stdout) (stderr : String)

/-- `_sudo_blocked` -/
def sudoBlocked (stderrText : String) : Bool :=
  let lowered := Py.lower stderrText
  Py.contains lowered "a password is required" || Py.contains lowered "a terminal is required" ||
    Py.contains lowered "not in the sudoers"

/-! ## The schemas of a write -/

/-- `Literal` -/
def isText (value : Option Json) (allowed : List String) : Bool :=
  match value with
  | some (.str text) => allowed.contains text
  | _ => false

/-- The integer zero. -/
def isZero : Option Json → Bool
  | some (.int 0) => true
  | _ => false

/-- An optional field that is absent or null, or passes the test. -/
def optionalField (value : Option Json) (test : Option Json → Bool) : Bool :=
  match value with
  | none => true
  | some .null => true
  | some other => test (some other)

/-- `_WriteDetail` -/
def validWriteDetail : Json → Bool
  | .obj detail => optionalField (getField detail "Controller") isZero && optionalField (getField detail "Ctrl") isZero &&
      isText (getField detail "Status") ["Success"]
  | _ => false

/-- `_WriteStatus` -/
def validWriteStatus : Json → Bool
  | .obj status => isZero (getField status "Controller") && isText (getField status "Status") ["Success", "Failure"] &&
      optionalField (getField status "Detailed Status") fun details =>
        match details with
        | some (.arr details) => details.all validWriteDetail
        | _ => false
  | _ => false

/-- `_WriteResponse` -/
def validWriteResponse : Json → Bool
  | .obj fields =>
    match getField fields "Controllers" with
    | some (.arr [.obj controller]) => (getField controller "Command Status").any validWriteStatus
    | _ => false
  | _ => false

def isInt : Option Json → Bool
  | some (.int _) => true
  | _ => false

/-- `_FailedDetail` -/
def validFailedDetail : Json → Bool
  | .obj detail => optionalField (getField detail "Status") (isText · ["Failure", "Failed"]) &&
      optionalField (getField detail "Controller") isInt && optionalField (getField detail "Ctrl") isInt &&
      match getField detail "ErrMsg" with
      | some (.str reason) => reason != ""
      | _ => false
  | _ => false

/-- A detail names no other controller. -/
def sameController (controller : ℤ) : Json → Bool
  | .obj detail => ["Controller", "Ctrl"].all fun name =>
      match getField detail name with
      | some (.int identity) => identity == controller
      | _ => true
  | _ => true

/-- `_FailedStatus`, with the identities of its details. -/
def validFailedStatus : Json → Bool
  | .obj status =>
    match getField status "Controller" with
    | some (.int controller) => isText (getField status "Status") ["Failure"] &&
        optionalField (getField status "Detailed Status") fun details =>
          match details with
          | some (.arr details) => !details.isEmpty && details.all fun detail =>
              validFailedDetail detail && sameController controller detail
          | _ => false
    | _ => false
  | _ => false

/-- `_failed_response` returns the payload. -/
def validFailedResponse : Json → Bool
  | .obj fields =>
    match getField fields "Controllers" with
    | some (.arr [.obj controller]) => (getField controller "Command Status").any validFailedStatus
    | _ => false
  | _ => false

/-! ## The call -/

/-- A nonzero exit. -/
def failedExit (stdout : Stdout) (stderrText : String) : PyError :=
  if stderrText = "" then
    match stdout with
    | .tooDeep => .recursionError
    | .json payload =>
      if validFailedResponse payload then .storcli ⟨.responseFailed, none⟩ else .storcli ⟨.commandFailed, none⟩
    | _ => .storcli ⟨.commandFailed, none⟩
  else .storcli ⟨.commandFailed, none⟩

/-- The output of a command that exits with zero; a write in the full capability must fit its schema. -/
def parseStdout (write : Bool) : Stdout → Except PyError Json
  | .notJson => raise .parseError
  | .intTooLarge => .error .valueError
  | .tooDeep => .error .recursionError
  | .json (.obj fields) =>
    if write && !validWriteResponse (.obj fields) then raise .parseError else .ok (.obj fields)
  | .json _ => raise .parseError

/-- From the start of the process to its payload. -/
def awaitProcess (useSudo write : Bool) : ProcessOutcome → Except PyError Json
  | .spawnFailed .other => .error .osError
  | .spawnFailed _ => raise .notAvailable
  | .timedOut true => .error .osError
  | .timedOut false => raise .commandFailed
  | .exited returncode stdout stderr =>
    let stderrText := Py.strip stderr
    if useSudo && sudoBlocked stderrText then raise .notAvailable
    else if returncode ≠ 0 then .error (failedExit stdout stderrText)
    else parseStdout write stdout

def ProcessOutcome.spawned : ProcessOutcome → Bool
  | spawnFailed _ => false
  | _ => true

/-- A failed preflight says that no write was sent. -/
def notSent : PyError → PyError
  | .storcli error => .storcli { error with writeSent := some false }
  | error => error

/-- `run_storcli` in the full capability: its answer, and whether the process was started. -/
def runStorcli (useSudo write : Bool) (preflight : Except PyError Unit) (process : ProcessOutcome) :
    Except PyError Json × Bool :=
  match preflight with
  | .error error => (.error (notSent error), false)
  | .ok _ => (awaitProcess useSudo write process, process.spawned)

/-- `_query_live_drive_show` -/
def queryLiveDriveShow (useSudo : Bool) (requestedDrive slotReference : String) (process : ProcessOutcome) :
    Except PyError DriveShow := do
  let payload ← (runStorcli useSudo false (.ok ()) process).1
  ensureCommandSucceeded payload
  parseDriveShow payload requestedDrive slotReference

end MegaraidDashboard.Storcli
