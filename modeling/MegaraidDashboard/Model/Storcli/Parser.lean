import MegaraidDashboard.Model.Python.Text

/-! # StorCLI payloads

The JSON of a command and the parsers that the write handlers call on it. An exception that a parser does
not turn into its own error goes up to the caller under its class.
-/

namespace MegaraidDashboard.Storcli

/-! ## Exceptions -/

inductive StorcliErrorKind where
  | commandFailed
  | notAvailable
  | parseError
  | responseFailed
deriving DecidableEq, Repr

/-- A `StorcliError`; `write_sent` is set where no write was sent for certain. -/
structure StorcliError where
  kind : StorcliErrorKind
  writeSent : Option Bool
deriving DecidableEq, Repr

/-- The exceptions by class. -/
inductive PyError where
  | storcli (error : StorcliError)
  | keyError
  | typeError
  | validationError
  | valueError
  | recursionError
  | osError
deriving DecidableEq, Repr

def PyError.isStorcli : PyError → Bool
  | storcli _ => true
  | _ => false

def raise {α : Type} (kind : StorcliErrorKind) : Except PyError α := .error (.storcli ⟨kind, none⟩)

/-! ## JSON -/

/-- What `json.loads` returns; of a number that is no integer only its finiteness matters. An escape such as `\ud800`
gives a lone surrogate, which no character is. -/
inductive Json where
  | null
  | bool (value : Bool)
  | int (value : ℤ)
  | float (finite : Bool)
  | str (text : String)
  /-- A string with a lone surrogate: it is no word that a parser looks for. -/
  | surrogateStr
  /-- The value under a key with a lone surrogate, for which the key has U+FFFD here. -/
  | surrogateKey (value : Json)
  | arr (items : List Json)
  | obj (fields : List (String × Json))

/-- `dict.get` -/
def getField (fields : List (String × Json)) (name : String) : Option Json :=
  (fields.find? fun field => field.1 == name).map Prod.snd

/-- `mapping[name]` -/
def item (fields : List (String × Json)) (name : String) : Except PyError Json :=
  match getField fields name with
  | some value => .ok value
  | none => .error .keyError

/-- `_mapping` -/
def mapping : Json → Except PyError (List (String × Json))
  | .obj fields => .ok fields
  | _ => .error .typeError

mutual

/-- `JSONResponse` can render the value: it refuses a number that is not finite, and a lone surrogate has no UTF-8. -/
def Json.renderable : Json → Bool
  | .float finite => finite
  | .surrogateStr => false
  | .surrogateKey _ => false
  | .arr items => Json.allRenderable items
  | .obj fields => Json.fieldsRenderable fields
  | _ => true

def Json.allRenderable : List Json → Bool
  | [] => true
  | first :: rest => first.renderable && Json.allRenderable rest

def Json.fieldsRenderable : List (String × Json) → Bool
  | [] => true
  | (_, first) :: rest => first.renderable && Json.fieldsRenderable rest

end

/-! ## Acceptance -/

section Acceptance

variable [PyText]

/-- `_first_controller` -/
def firstController : Json → Except PyError (List (String × Json))
  | .obj fields =>
    match getField fields "Controllers" with
    | some (.arr (.obj controller :: _)) => .ok controller
    | _ => raise .parseError
  | _ => raise .parseError

/-- `ensure_command_succeeded` -/
def ensureCommandSucceeded (payload : Json) : Except PyError Unit := do
  let controller ← firstController payload
  match getField controller "Command Status" with
  | some (.obj status) =>
    match getField status "Status" with
    | some (.str value) =>
      let word := Py.casefold (Py.strip value)
      if word = "failure" then raise .commandFailed
      else if word = "success" then pure ()
      else raise .parseError
    | _ => raise .parseError
  | _ => raise .parseError

/-- `str(value).strip().casefold() == "failure"`; only a string prints as a word. -/
def printsFailure : Json → Bool
  | .str value => Py.casefold (Py.strip value) == "failure"
  | _ => false

/-- `_command_failed` -/
def commandFailed (controller : List (String × Json)) : Except PyError Bool := do
  let status ← mapping ((getField controller "Command Status").getD (.obj []))
  pure ((getField status "Status").any printsFailure)

/-- `_ensure_success` -/
def ensureSuccess (payload : Json) : Except PyError (List (String × Json)) := do
  let controller ← firstController payload
  if ← commandFailed controller then raise .commandFailed else pure controller

end Acceptance

/-! ## One drive -/

/-- `DriveShow` -/
structure DriveShow where
  state : String
  serialNumber : String
deriving DecidableEq, Repr

/-- `_response_data` -/
def responseData (controller : List (String × Json)) : Except PyError (List (String × Json)) :=
  match (getField controller "Response Data").getD (.obj []) with
  | .obj response => .ok response
  | _ => raise .parseError

/-- The keys of the drive summaries. -/
def isDriveKey (key : String) : Bool :=
  Py.startsWith key "Drive " && !Py.endsWith key " - Detailed Information"

/-- `_drive_rows`, each with its only row. -/
def driveRows : List (String × Json) → Except PyError (List (String × Json))
  | [] => .ok []
  | (key, value) :: rest =>
    if isDriveKey key then
      match value with
      | .arr [row] => do
        let rows ← driveRows rest
        pure ((key, row) :: rows)
      | _ => .error .typeError
    else driveRows rest

/-- `DriveShow.model_validate` -/
def DriveShow.validate (state : String) (serialNumber : Json) : Except PyError DriveShow :=
  match serialNumber with
  | .str number =>
    if Py.strip state = "" ∨ Py.strip number = "" then .error .validationError
    else .ok ⟨state, Py.strip number⟩
  | _ => .error .typeError

/-- `_extract_drive_show`, over the fields that are left. -/
def extractDriveShow (response : List (String × Json)) : List (String × Json) → Except PyError DriveShow
  | [] => raise .parseError
  | (key, value) :: rest =>
    match isDriveKey key, value with
    | true, .arr (.obj first :: _) =>
      match getField first "State" with
      | some (.str state) => do
        let detail ← (item response (key ++ " - Detailed Information")).bind mapping
        let attributes ← (item detail (key ++ " Device attributes")).bind mapping
        let serialNumber ← item attributes "SN"
        DriveShow.validate state serialNumber
      | _ => extractDriveShow response rest
    | _, _ => extractDriveShow response rest

/-- The response names the requested drive and no other one. -/
def identifiesDrive (payload : Json) (controller response : List (String × Json)) (requestedDrive slotReference : String) :
    Except PyError Bool := do
  let status ← (item controller "Command Status").bind mapping
  let rows ← driveRows response
  match payload, getField status "Controller", rows with
  | .obj fields, some (.int 0), [(key, row)] =>
    match getField fields "Controllers" with
    | some (.arr [_]) =>
      if key = "Drive " ++ requestedDrive then do
        let summary ← mapping row
        match getField summary "EID:Slt" with
        | some (.str text) => pure (text == slotReference)
        | _ => pure false
      else pure false
    | _ => pure false
  | _, _, _ => pure false

/-- `except (KeyError, TypeError, ValidationError)` -/
def schemaErrors {α : Type} : Except PyError α → Except PyError α
  | .error .keyError => raise .parseError
  | .error .typeError => raise .parseError
  | .error .validationError => raise .parseError
  | answer => answer

/-- `parse_drive_show` with the requested drive. -/
def parseDriveShow [PyText] (payload : Json) (requestedDrive slotReference : String) : Except PyError DriveShow := do
  let controller ← ensureSuccess payload
  schemaErrors do
    let response ← responseData controller
    if ← identifiesDrive payload controller response requestedDrive slotReference then
      extractDriveShow response response
    else raise .parseError

end MegaraidDashboard.Storcli
