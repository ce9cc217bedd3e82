import MegaraidDashboard.Model.Storcli.ForeignConfig
import MegaraidDashboard.Model.Storcli.Parser
import MegaraidDashboard.Model.Time

/-! # Field validation

The storcli records are validated field by field, in their order. A `ValueError` of a validator is collected and
ends in one `ValidationError`; any other exception of a validator goes up at once. A field is read under its
alias, and under its own name where the alias is missing.
-/

namespace MegaraidDashboard.Storcli.Inventory

open JsonText

/-! ## Exceptions -/

/-- The exceptions of a poll by class; a `ValidationError` is a `ValueError`. -/
inductive InventoryError where
  | storcli (kind : StorcliErrorKind) (message : String)
  | keyError
  | indexError
  | typeError
  | attributeError
  | valueError
  | validationError
  | arithmeticError
  | osError
deriving DecidableEq, Repr

def InventoryError.isStorcli : InventoryError → Bool
  | storcli _ _ => true
  | _ => false

def parseError {α : Type} (message : String) : Except InventoryError α := .error (.storcli .parseError message)

def InventoryError.ofNumber : NumberError → InventoryError
  | .valueError => .valueError
  | .arithmeticError => .arithmeticError

def InventoryError.ofForeign : ForeignError → InventoryError
  | .commandFailed errMsg => .storcli .commandFailed ("storcli command failed: " ++ errMsg)
  | .parseError message => .storcli .parseError message
  | .typeError => .typeError
  | .number error => .ofNumber error

/-- `except caught as exc: raise StorcliParseError(message) from exc` -/
def rescue {α : Type} (caught : InventoryError → Bool) (message : String) (answer : Except InventoryError α) :
    Except InventoryError α :=
  match answer with
  | .error error => if caught error then parseError message else .error error
  | .ok value => .ok value

@[simp] theorem rescue_eq_ok {α : Type} {caught : InventoryError → Bool} {message : String}
    {answer : Except InventoryError α} {value : α} : rescue caught message answer = .ok value ↔ answer = .ok value := by
  cases answer with
  | ok result => exact Iff.rfl
  | error error =>
    simp only [rescue]
    split_ifs <;> exact ⟨nofun, nofun⟩

/-! ## Collected errors -/

/-- The state of a validation: no value once an error is collected. -/
def Validation (α : Type) : Type := Except InventoryError (Option α)

namespace Validation

instance : Pure Validation := ⟨fun value => .ok (some value)⟩

instance : Functor Validation where
  map f validation := match validation with
    | .ok value => .ok (value.map f)
    | .error error => .error error

/-- The fields stand in their order: the first exception that goes up ends the validation. -/
instance : Seq Validation where
  seq make field := match make, field () with
    | .error error, _ => .error error
    | .ok _, .error error => .error error
    | .ok f, .ok value => .ok (f.bind fun f => value.map f)

/-- What a validator answers for a field. -/
def collect {α : Type} : Except InventoryError α → Validation α
  | .ok value => .ok (some value)
  | .error .valueError | .error .validationError => .ok none
  | .error error => .error error

/-- A collected error makes a `ValidationError`. -/
def run {α : Type} : Validation α → Except InventoryError α
  | .ok (some value) => .ok value
  | .ok none => .error .validationError
  | .error error => .error error

variable {α β : Type}

/-- Every value of the validation satisfies the predicate. -/
def Yields (validation : Validation α) (P : α → Prop) : Prop := ∀ value, validation.run = .ok value → P value

theorem Yields.seq {make : Validation (α → β)} {field : Validation α} {P : β → Prop} {R : α → Prop}
    (made : make.Yields fun f => ∀ value, R value → P (f value)) (read : field.Yields R) :
    (make <*> field : Validation β).Yields P := by
  intro result valid
  rcases make with error | _ | f
  · cases valid
  · rcases field with error | value <;> cases valid
  · rcases field with error | _ | value
    · cases valid
    · cases valid
    · obtain rfl := Except.ok.inj valid
      exact made f rfl value (read value rfl)

/-- A field that the predicate does not ask about. -/
theorem Yields.skip {make : Validation (α → β)} {field : Validation α} {P : β → Prop}
    (made : make.Yields fun f => ∀ value, P (f value)) : (make <*> field : Validation β).Yields P :=
  .seq (R := fun _ => True) (fun f valid value _ => made f valid value) fun _ _ => trivial

theorem yields_map {f : α → β} {field : Validation α} {P : β → Prop} (holds : ∀ value, P (f value)) :
    (f <$> field : Validation β).Yields P := by
  intro result valid
  rcases field with error | _ | value
  · cases valid
  · cases valid
  · obtain rfl := Except.ok.inj valid
    exact holds value

theorem run_collect {answer : Except InventoryError α} {value : α} (valid : (collect answer).run = .ok value) :
    answer = .ok value := by
  rcases answer with error | result
  · cases error <;> cases valid
  · exact valid

end Validation

/-- A field by its alias, which is its label in the payload, or its name. -/
def fieldValue (data : Fields) (label name : String) : Option Value := (data.get label).or (data.get name)

/-- A field without a default; a missing one is collected. -/
def required {α : Type} (data : Fields) (label name : String) (validate : Value → Except InventoryError α) :
    Validation α :=
  match fieldValue data label name with
  | some value => .collect (validate value)
  | none => .ok none

/-- A field with the default `None`, which is not validated. -/
def defaulted {α : Type} (data : Fields) (label name : String)
    (validate : Value → Except InventoryError (Option α)) : Validation (Option α) :=
  match fieldValue data label name with
  | some value => .collect (validate value)
  | none => .ok (some none)

/-! ## Conversions -/

/-- Conversions that belong to pydantic, to `datetime`, and to the comparison of a float with an integer. -/
class PyConversions where
  /-- The `int` type of pydantic in its lax mode. -/
  laxInt : Value → Option ℤ
  laxInt_int : ∀ n, laxInt (.scalar (.int n)) = some n
  /-- `datetime.strptime(text, format)`; no result is the `ValueError`. -/
  strptime : String → String → Option ℤ
  /-- `value == n` of a finite float -/
  floatEq : FloatText → ℤ → Bool

/-- `isinstance(value, int)`; a bool is an integer. -/
def isinstanceInt : Value → Option ℤ
  | .scalar (.int n) => some n
  | .scalar (.bool value) => some (if value then 1 else 0)
  | _ => none

/-- `value in (None, "", "N/A", "-")` -/
def isAbsent : Value → Bool
  | .scalar .null => true
  | .str text => text ∈ ["", "N/A", "-"]
  | _ => false

/-- The words of `text.split()`. -/
def words (text : String) : List String :=
  ((text.toList.splitOnP Py.isSpace).filter fun part => !part.isEmpty).map String.ofList

/-- `text.partition(sep)[0]` -/
def before (text : String) (sep : Char) : String := String.ofList (text.toList.takeWhile (· != sep))

def ofNumber (answer : Except NumberError ℤ) : Except InventoryError ℤ := answer.mapError .ofNumber

section Fields

variable [PyText] [PyNumbers] [PyConversions]

/-- A `str` field. -/
def text : Value → Except InventoryError String
  | .str text => .ok text
  | _ => .error .valueError

/-- A `str | None` field. -/
def optionalText : Value → Except InventoryError (Option String)
  | .scalar .null => .ok none
  | value => some <$> text value

/-- An `int` field without a validator of its own. -/
def integer (value : Value) : Except InventoryError ℤ :=
  match PyConversions.laxInt value with
  | some n => .ok n
  | none => .error .valueError

/-- `int(text)` -/
def intOfText (text : String) : Except InventoryError ℤ :=
  match PyNumbers.int text with
  | some n => .ok n
  | none => .error .valueError

/-- `int(value)` of a float -/
def intOfFloat : Scalar → Except InventoryError ℤ
  | .float value => .ok (PyNumbers.truncate value)
  | .nonFinite .nan => .error .valueError
  | .nonFinite _ => .error .arithmeticError
  | _ => .error .typeError

/-- The numbers of `_parse_temperature`, `_parse_percent` and `_parse_optional_int`, which differ in what they do
with a text. -/
def parseNumber (ofText : String → Except InventoryError (Option ℤ)) (value : Value) :
    Except InventoryError (Option ℤ) :=
  if isAbsent value then .ok none
  else match isinstanceInt value, value with
    | some n, _ => .ok (some n)
    | none, .str text => ofText text
    | none, .scalar scalar => some <$> intOfFloat scalar
    | none, _ => .error .typeError

/-- `_parse_temperature` -/
def parseTemperature : Value → Except InventoryError (Option ℤ) :=
  parseNumber fun text => some <$> ofNumber (PyNumbers.intOfFloat (Py.strip (before text 'C')))

/-- `_parse_percent` -/
def parsePercent : Value → Except InventoryError (Option ℤ) :=
  parseNumber fun text => some <$> ofNumber (PyNumbers.intOfFloat (Py.strip (before text '%')))

/-- `_parse_optional_int` -/
def parseOptionalInt : Value → Except InventoryError (Option ℤ) :=
  parseNumber fun text =>
    match PyNumbers.intOfFloat (Py.strip text) with
    | .ok n => .ok (some n)
    | .error .valueError => .ok none
    | .error error => .error (.ofNumber error)

/-- `_yes_no_to_bool` -/
def yesNoToBool : Value → Except InventoryError Bool
  | .scalar (.bool value) => .ok value
  | .scalar (.int n) => .ok (n ≠ 0)
  | .str text => .ok (Py.lower (Py.strip text) ∈ ["yes", "y", "true", "on", "1", "present"])
  | _ => .error .typeError

/-- `parse_size` of the drives. -/
def parseSize (value : Value) : Except InventoryError ℤ :=
  match isinstanceInt value, value with
  | some n, _ => .ok n
  | none, .str text => ofNumber (sizeStringToBytes text)
  | none, _ => .error .typeError

/-- `_parse_datetime` -/
def parseDatetime : Value → Except InventoryError ℤ
  | .str text =>
    let normalized := " ".intercalate (words (Py.strip (before text '(')))
    match (PyConversions.strptime normalized "%m/%d/%Y, %H:%M:%S").or
      (PyConversions.strptime normalized "%Y/%m/%d %H:%M:%S") with
    | some time => .ok time
    | none => .error .valueError
  | _ => .error .typeError

/-! ## The controller -/

/-- `ControllerInfo.model_validate` -/
def validateControllerInfo (data : Fields) : Except InventoryError ControllerInfo :=
  (ControllerInfo.mk
    <$> required data "Model" "model_name" text
    <*> required data "Serial Number" "serial_number" text
    <*> required data "Firmware Version" "firmware_version" text
    <*> required data "Bios Version" "bios_version" text
    <*> required data "Driver Name" "driver_name" text
    <*> required data "Driver Version" "driver_version" text
    <*> required data "PCI Address" "pci_address" text
    <*> required data "Current System Date/time" "system_time" parseDatetime
    <*> required data "Alarm" "alarm_state" text
    <*> required data "Cachevault_Info" "cv_present" (fun
      | .arr items => .ok !items.isEmpty
      | value => yesNoToBool value)
    <*> required data "BBU" "bbu_present" yesNoToBool
    <*> defaulted data "ROC temperature(Degree Celsius)" "roc_temperature_celsius" parseOptionalInt : Validation _).run

/-! ## Drives -/

/-- `parse_vd_id` -/
def parseVdId (value : Value) : Except InventoryError ℤ :=
  match isinstanceInt value, value with
  | some n, _ => .ok n
  | none, .str text =>
    let vdId := ((Py.splitOnce text '/').map Prod.snd).getD ""
    intOfText (if vdId = "" then text else vdId)
  | none, _ => .error .typeError

/-- `VirtualDrive.model_validate` -/
def validateVirtualDrive : Value → Except InventoryError VirtualDrive
  | .obj data => (VirtualDrive.mk
      <$> required data "DG/VD" "vd_id" parseVdId
      <*> required data "Name" "name" text
      <*> required data "TYPE" "raid_level" text
      <*> required data "Size" "size_bytes" parseSize
      <*> required data "State" "state" text
      <*> required data "Access" "access" text
      <*> required data "Cache" "cache" text : Validation _).run
  | _ => .error .validationError

/-- `parse_eid_slot`; the side of the colon depends on the field. -/
def parseEidSlot (side : String × String → String) (value : Value) : Except InventoryError ℤ :=
  match isinstanceInt value, value with
  | some n, _ => .ok n
  | none, .str text =>
    match Py.splitOnce text ':' with
    | some sides => intOfText (side sides)
    | none => .error .valueError
  | none, _ => .error .typeError

/-- `strip_serial_number` -/
def stripSerialNumber : Value → Except InventoryError String
  | .str text => .ok (Py.strip text)
  | _ => .error .typeError

/-- `parse_disk_group_id` -/
def parseDiskGroupId : Value → Except InventoryError (Option ℤ)
  | .scalar (.bool _) => .error .typeError
  | .scalar (.int n) => .ok (some n)
  | .str text =>
    let stripped := Py.strip text
    .ok (if stripped ∈ ["", "-", "N/A"] then none else PyNumbers.int stripped)
  | _ => .ok none

/-- `normalize_sas_address` -/
def normalizeSasAddress : Value → Except InventoryError String
  | .str text => .ok (if Py.startsWith text "0x" then Py.dropPrefix text "0x" else text)
  | _ => .error .typeError

/-- `PhysicalDrive.model_validate` -/
def validatePhysicalDrive (data : Fields) : Except InventoryError PhysicalDrive :=
  (PhysicalDrive.mk
    <$> required data "EID:Slt" "enclosure_id" (parseEidSlot Prod.fst)
    <*> required data "EID:Slt" "slot_id" (parseEidSlot Prod.snd)
    <*> required data "DID" "device_id" integer
    <*> required data "Model" "model" text
    <*> required data "SN" "serial_number" stripSerialNumber
    <*> required data "Firmware Revision" "firmware_version" text
    <*> required data "Size" "size_bytes" parseSize
    <*> required data "Intf" "interface" text
    <*> required data "Med" "media_type" text
    <*> required data "State" "state" text
    <*> defaulted data "DG" "disk_group_id" parseDiskGroupId
    <*> required data "Drive Temperature" "temperature_celsius" parseTemperature
    <*> required data "Media Error Count" "media_errors" integer
    <*> required data "Other Error Count" "other_errors" integer
    <*> required data "Predictive Failure Count" "predictive_failures" integer
    <*> required data "S.M.A.R.T alert flagged by drive" "smart_alert" yesNoToBool
    <*> required data "SAS address" "sas_address" normalizeSasAddress : Validation _).run

/-! ## The CacheVault -/

/-- `validate_health_text` -/
def validateHealthText : Value → Except InventoryError String
  | .str text => if Py.strip text ∈ ["", "-", "N/A"] then .error .valueError else .ok text
  | _ => .error .valueError

/-- A number field that refuses a bool. -/
def notBool (parse : Value → Except InventoryError (Option ℤ)) : Value → Except InventoryError (Option ℤ)
  | .scalar (.bool _) => .error .valueError
  | value => parse value

/-- `parse_capacitance_percent` -/
def parseCapacitancePercent (value : Value) : Except InventoryError (Option ℤ) := do
  let parsed ← notBool parsePercent value
  if parsed.all fun percent => decide (0 ≤ percent ∧ percent ≤ 100) then return parsed
  else .error .valueError

/-- `parse_replacement_required` -/
def parseReplacementRequired : Value → Except InventoryError Bool
  | .scalar (.bool value) => .ok value
  | .str text =>
    if Py.lower (Py.strip text) ∈ ["yes", "no"] then .ok (Py.lower (Py.strip text) == "yes")
    else .error .valueError
  | _ => .error .valueError

/-- A text of the shape: a digit for every zero, and the other characters as they are. -/
def hasShape (shape text : String) : Bool :=
  text.toList.length == shape.toList.length &&
    (text.toList.zip shape.toList).all fun (c, expected) => if expected = '0' then c.isDigit else c == expected

/-- The seconds of `\s*[0-9]{4}/[0-9]{2}/[0-9]{2}\s+[0-9]{2}:[0-9]{2}:[0-9]{2}\s+\(([0-9]{1,10}) seconds\)\s*`. -/
def recoveredSeconds (text : String) : Option ℤ :=
  match Py.splitOnce text '(', words (before text '(') with
  | some (head, tail), [day, time] =>
    let digits := tail.toList.takeWhile Char.isDigit
    let rest := String.ofList (tail.toList.drop digits.length)
    if hasShape "0000/00/00" day && hasShape "00:00:00" time && head.toList.getLast?.any Py.isSpace &&
        decide (1 ≤ digits.length) && decide (digits.length ≤ 10) && Py.startsWith rest " seconds)" &&
        (Py.dropPrefix rest " seconds)").toList.all Py.isSpace
    then PyNumbers.int (String.ofList digits)
    else none
  | _, _ => none

/-- `datetime(2000, 1, 1, tzinfo=UTC)` -/
def epoch2000 : ℤ := 730119 * Timestamp.day

/-- `parse_next_learn_cycle` -/
def parseNextLearnCycle (value : Value) : Except InventoryError (Option ℤ) :=
  if isAbsent value then .ok none
  else match parseDatetime value with
    | .ok time => .ok (some time)
    | .error .valueError | .error .typeError =>
      let seconds := match value with
        | .str text => (recoveredSeconds text).filter fun seconds => decide (0 < seconds ∧ seconds < 0xFFFFFFFF)
        | _ => none
      .ok (seconds.map fun seconds => epoch2000 + seconds * Timestamp.second)
    | .error error => .error error

/-- `CacheVault.model_validate` -/
def validateCacheVault (data : Fields) : Except InventoryError CacheVault :=
  (CacheVault.mk
    <$> required data "Type" "type" validateHealthText
    <*> required data "State" "state" validateHealthText
    <*> required data "Temperature" "temperature_celsius" (notBool parseTemperature)
    <*> defaulted data "Pack Energy" "pack_energy" optionalText
    <*> defaulted data "Capacitance" "capacitance_percent" parseCapacitancePercent
    <*> required data "Replacement required" "replacement_required" parseReplacementRequired
    <*> defaulted data "Next Learn time" "next_learn_cycle" parseNextLearnCycle : Validation _).run

end Fields

end MegaraidDashboard.Storcli.Inventory
