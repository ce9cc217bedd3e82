import MegaraidDashboard.ToMathlib.JsonText
import MegaraidDashboard.Model.Python.Text
import MegaraidDashboard.Model.Storcli.Models
import Mathlib.Data.List.SplitOn

/-! # The foreign configuration

The parser reads a free-form payload: it looks at every field whose name contains a marker. The digest of a
present configuration is a summary for the operator and a fingerprint of the whole Response Data.
-/

namespace MegaraidDashboard.Storcli

open JsonText

/-! ## The interpreter -/

inductive NumberError where
  | valueError
  | arithmeticError
deriving DecidableEq, Repr

/-- Conversions of the interpreter that go through binary or decimal floating point, and `str` of a value that is
no string. -/
class PyNumbers where
  /-- `int(text)`; no result is the `ValueError`. -/
  int : String → Option ℤ
  /-- `int(value)` of a finite float -/
  truncate : FloatText → ℤ
  /-- `int(float(text))` -/
  intOfFloat : String → Except NumberError ℤ
  /-- `int(Decimal(text) * multiplier)`; a text that is no number is a `ValueError`. -/
  intOfDecimal : String → ℕ → Except NumberError ℤ
  /-- `round(numerator / denominator)` -/
  roundQuotient : ℤ → ℕ → Except NumberError ℤ
  str : Value → String

/-- `hashlib.sha256(data).hexdigest()` -/
class Sha256 where
  hexdigest : List Char → List Char
  length_hexdigest : ∀ data, (hexdigest data).length = 64
  hexdigest_hex : ∀ data, ∀ c ∈ hexdigest data, c ∈ "0123456789abcdef".toList

/-! ## Fields of a payload -/

abbrev Fields := List (String × Value)

/-- `mapping.get(name)` -/
def Fields.get (fields : Fields) (name : String) : Option Value :=
  (fields.find? fun field => field.1 == name).map Prod.snd

def Fields.has (fields : Fields) (name : String) : Bool := fields.any fun field => field.1 == name

inductive ForeignError where
  | commandFailed (errMsg : String)
  | parseError (message : String)
  | typeError
  | number (error : NumberError)
deriving DecidableEq, Repr

/-- `bool(value)` -/
def truthy : Value → Bool
  | .scalar .null => false
  | .scalar (.bool value) => value
  | .scalar (.int value) => value ≠ 0
  | .scalar (.float value) => (value.chars.takeWhile (· != 'e')).any fun c => c.isDigit && c != '0'
  | .scalar (.nonFinite _) => true
  | .str text => text ≠ ""
  | .arr items => !items.isEmpty
  | .obj fields => !fields.isEmpty

section Parsing

variable [PyText] [PyNumbers]

/-- `str(value)` -/
def pyStr : Value → String
  | .str text => text
  | value => PyNumbers.str value

/-- `_first_controller` -/
def firstControllerFields : Value → Except ForeignError Fields
  | .obj payload =>
    match Fields.get payload "Controllers" with
    | some (.arr (.obj controller :: _)) => .ok controller
    | _ => .error (.parseError "payload does not contain a controller")
  | _ => .error (.parseError "payload does not contain a controller")

/-- `_mapping(controller.get("Command Status", {}))` -/
def commandStatus (controller : Fields) : Except ForeignError Fields :=
  match (controller.get "Command Status").getD (.obj []) with
  | .obj status => .ok status
  | _ => .error .typeError

def isFailure (text : String) : Bool := Py.casefold (Py.strip text) == "failure"

/-- The error message of an entry of `Detailed Status`. -/
def entryErrMsg : Value → Option String
  | .obj entry => ((Fields.get entry "ErrMsg").filter truthy).map pyStr
  | _ => none

/-- `_command_err_msg` behind its mapping. -/
def commandErrMsg (status : Fields) : String :=
  let detailed := match status.get "Detailed Status" with
    | some (.arr entries) => entries.findSome? entryErrMsg
    | _ => none
  match detailed with
  | some message => message
  | none =>
    match (status.get "Description").filter truthy with
    | some description => pyStr description
    | none => ((status.get "Status").filter truthy).elim "unknown error" pyStr

def noForeignConfigMarkers : List String :=
  ["no foreign configuration", "no foreign config", "foreign configuration not found"]

/-- `_is_no_foreign_config_error` -/
def isNoForeignConfigError (errMsg : String) : Bool :=
  noForeignConfigMarkers.any fun marker => Py.contains (Py.casefold errMsg) marker

/-- `ensure_command_succeeded` after a failure was answered. -/
def ensureExplicitSuccess (controller : Fields) : Except ForeignError Unit :=
  match controller.get "Command Status" with
  | some (.obj status) =>
    match Fields.get status "Status" with
    | some (.str value) =>
      if Py.casefold (Py.strip value) = "success" then .ok ()
      else .error (.parseError "storcli did not report an explicit Success or Failure status")
    | _ => .error (.parseError "storcli did not report an explicit Success or Failure status")
  | _ => .error (.parseError "storcli did not report a valid Command Status")

/-! ## Drives and disk groups -/

/-- The mappings in the lists under the names that contain a marker. -/
def listedMappings (named : String → Bool) (response : Fields) : List Fields :=
  response.flatMap fun (key, value) =>
    match named (Py.casefold key), value with
    | true, .arr items => items.filterMap fun
      | .obj item => some item
      | _ => none
    | _, _ => []

/-- `_foreign_drives` -/
def foreignDrives (response : Fields) : List Fields :=
  (listedMappings (fun normalized => Py.contains normalized "pd list" || Py.contains normalized "drive") response).filter
    fun item => item.has "EID:Slt" || item.has "DID"

/-- `_coerce_dg_id` -/
def coerceDgId : Option Value → Option ℤ
  | some (.scalar (.int value)) => some value
  | some (.str value) =>
    let text := Py.strip value
    if text = "" ∨ text = "-" ∨ text = "N/A" then none
    else
      match Py.splitOnce text '/' with
      | some (head, _) => PyNumbers.int (Py.strip head)
      | none => PyNumbers.int text
  | _ => none

/-- `size_string_to_bytes` -/
def sizeStringToBytes (value : String) : Except NumberError ℤ :=
  let plain := value.toList.filter (· != ',')
  match (plain.splitOnP Py.isSpace).filter fun part => !part.isEmpty with
  | [] => .error .valueError
  | number :: rest =>
    let unit := match rest with
      | [] => "B"
      | part :: _ => Py.upper (String.ofList part)
    let unit := if unit = "BYTES" then "B" else unit
    match [("B", 1), ("KB", 10 ^ 3), ("MB", 10 ^ 6), ("GB", 10 ^ 9), ("TB", 10 ^ 12), ("PB", 10 ^ 15)].lookup unit with
    | none => .error .valueError
    | some multiplier => PyNumbers.intOfDecimal (String.ofList number) multiplier

/-- `except ValueError` with no value. -/
def orNone (answer : Except NumberError ℤ) : Except ForeignError (Option ℤ) :=
  match answer with
  | .ok value => .ok (some value)
  | .error .valueError => .ok none
  | .error error => .error (.number error)

/-- `by_id.setdefault(dg_id, …)` and a change of the entry. -/
def updateGroup (dgId : ℤ) (change : ForeignConfigDiskGroup → ForeignConfigDiskGroup)
    (groups : List ForeignConfigDiskGroup) : List ForeignConfigDiskGroup :=
  if groups.any fun group => group.dgId == dgId then
    groups.map fun group => if group.dgId = dgId then change group else group
  else groups ++ [change ⟨dgId, 0, none⟩]

/-- The entry of a row under a name with `dg`; the first size that can be read stays. -/
def noteGroup (groups : List ForeignConfigDiskGroup) (item : Fields) :
    Except ForeignError (List ForeignConfigDiskGroup) :=
  match coerceDgId (if item.has "DG" then item.get "DG" else item.get "DG/VD") with
  | none => .ok groups
  | some dgId =>
    let sized := groups.any fun group => group.dgId == dgId && group.sizeBytes.isSome
    match item.get "Size", sized with
    | some (.str sizeText), false => do
      let size ← orNone (sizeStringToBytes sizeText)
      return updateGroup dgId (fun group => { group with sizeBytes := size }) groups
    | _, _ => .ok (updateGroup dgId id groups)

/-- The entry of a drive. -/
def countDrive (groups : List ForeignConfigDiskGroup) (drive : Fields) : List ForeignConfigDiskGroup :=
  match coerceDgId (drive.get "DG") with
  | none => groups
  | some dgId => updateGroup dgId (fun group => { group with driveCount := group.driveCount + 1 }) groups

/-- `_foreign_disk_groups` -/
def foreignDiskGroups (response : Fields) (drives : List Fields) :
    Except ForeignError (List ForeignConfigDiskGroup) := do
  let groups ← (listedMappings (fun normalized => Py.contains normalized "dg") response).foldlM noteGroup []
  return (drives.foldl countDrive groups).orderBy fun group => group.dgId

/-! ## Counts and sizes -/

/-- `_coerce_count` -/
def coerceCount : Value → Except ForeignError (Option ℤ)
  | .scalar (.int value) => .ok (some value)
  | .scalar (.float value) => .ok (some (PyNumbers.truncate value))
  | .scalar (.nonFinite .nan) => .error (.number .valueError)
  | .scalar (.nonFinite _) => .error (.number .arithmeticError)
  | .str value =>
    if Py.strip value = "" then .ok none else orNone (PyNumbers.intOfFloat (Py.strip value))
  | _ => .ok none

/-- One field of `_foreign_summary_counts`; the first positive count of its kind stays. -/
def summaryCountStep (counts : ℤ × ℤ) (field : String × Value) : Except ForeignError (ℤ × ℤ) :=
  let normalized := Py.casefold field.1
  if Py.contains normalized "total" && Py.contains normalized "foreign" && Py.contains normalized "count" then do
    match ← coerceCount field.2 with
    | none => return counts
    | some coerced =>
      if coerced ≤ 0 then return counts
      else if Py.contains normalized "dg" && counts.1 == 0 then return (coerced, counts.2)
      else if Py.contains normalized "drive" && counts.2 == 0 then return (counts.1, coerced)
      else return counts
  else .ok counts

/-- `_foreign_summary_counts` -/
def foreignSummaryCounts (response : Fields) : Except ForeignError (ℤ × ℤ) := response.foldlM summaryCountStep (0, 0)

/-- The first total size that can be read. -/
def reportedTotalSize : Fields → Except ForeignError (Option ℤ)
  | [] => .ok none
  | (key, .str value) :: rest =>
    if Py.contains (Py.casefold key) "total" && Py.contains (Py.casefold key) "size" then do
      match ← orNone (sizeStringToBytes value) with
      | some size => return some size
      | none => reportedTotalSize rest
    else reportedTotalSize rest
  | _ :: rest => reportedTotalSize rest

/-- `_foreign_total_size_bytes` -/
def foreignTotalSizeBytes (response : Fields) (diskGroups : List ForeignConfigDiskGroup) :
    Except ForeignError (Option ℤ) := do
  match ← reportedTotalSize response with
  | some size => return some size
  | none =>
    let sizes := diskGroups.filterMap (·.sizeBytes)
    return if sizes.isEmpty then none else some (sizes.foldl (· + ·) 0)

/-- What the operator is told about a configuration. -/
structure ForeignSummary where
  dgCount : ℤ
  driveCount : ℤ
  totalSizeBytes : Option ℤ
  diskGroups : List ForeignConfigDiskGroup
deriving DecidableEq, Repr

/-- The counts of `parse_foreign_config`; no summary is an absent configuration. -/
def foreignSummary (response : Fields) : Except ForeignError (Option ForeignSummary) := do
  let drives := foreignDrives response
  let diskGroups ← foreignDiskGroups response drives
  let totalSizeBytes ← foreignTotalSizeBytes response diskGroups
  if diskGroups.length = 0 ∧ drives.length = 0 then
    let (summaryDg, summaryDrive) ← foreignSummaryCounts response
    if summaryDg > 0 ∨ summaryDrive > 0 then
      return some ⟨summaryDg, summaryDrive, totalSizeBytes, diskGroups⟩
    else return none
  else return some ⟨diskGroups.length, drives.length, totalSizeBytes, diskGroups⟩

/-! ## The digest -/

/-- The size in gigabytes that a summary shows. -/
def sizeToken : Option ℤ → Except ForeignError String
  | none => .ok "UNKNOWN"
  | some totalSizeBytes =>
    match PyNumbers.roundQuotient totalSizeBytes (10 ^ 9) with
    | .ok rounded => .ok (toString (max 0 rounded) ++ "GB")
    | .error error => .error (.number error)

def dgToken (group : ForeignConfigDiskGroup) : String :=
  "dg" ++ toString group.dgId ++ ":" ++ toString group.driveCount

/-- `_foreign_config_digest` of the size token. -/
def summaryText (summary : ForeignSummary) (size : String) : String :=
  let base := "FC-DG" ++ toString summary.dgCount ++ "-PD" ++ toString summary.driveCount ++ "-" ++ size
  match summary.diskGroups.map dgToken with
  | [] => base
  | tokens => base ++ "-[" ++ ",".intercalate tokens ++ "]"

/-- `_foreign_config_digest` -/
def foreignConfigDigest (summary : ForeignSummary) : Except ForeignError String := do
  let size ← sizeToken summary.totalSizeBytes
  return summaryText summary size

variable [Sha256]

/-- `_foreign_metadata_digest` -/
def foreignMetadataDigest (response : Fields) (summary : String) : Except ForeignError String :=
  match dumps (.obj response) with
  | none => .error (.parseError "foreign metadata cannot be fingerprinted")
  | some encoded => .ok (summary ++ "-" ++ String.ofList (Sha256.hexdigest encoded))

def ForeignConfig.absent : ForeignConfig := ⟨false, 0, 0, none, [], ""⟩

/-- `parse_foreign_config` behind the Response Data. -/
def foreignConfigOf (response : Fields) : Except ForeignError ForeignConfig := do
  match ← foreignSummary response with
  | none => return .absent
  | some summary =>
    let digest ← foreignConfigDigest summary
    return { present := true
             dgCount := summary.dgCount
             driveCount := summary.driveCount
             totalSizeBytes := summary.totalSizeBytes
             diskGroups := summary.diskGroups
             digest := ← foreignMetadataDigest response digest }

/-- `parse_foreign_config` -/
def parseForeignConfig (payload : Value) : Except ForeignError ForeignConfig := do
  let controller ← firstControllerFields payload
  let status ← commandStatus controller
  if isFailure (((Fields.get status "Status").map pyStr).getD "") then
    if isNoForeignConfigError (commandErrMsg status) then return .absent
    else .error (.commandFailed (commandErrMsg status))
  else
    ensureExplicitSuccess controller
    match (controller.get "Response Data").getD (.obj []) with
    | .obj response => foreignConfigOf response
    | _ => return .absent

end Parsing

end MegaraidDashboard.Storcli
