import Mathlib.Data.List.AList

/-! # Database rows

Rows keep the columns that the modelled code reads. Severities, categories and subjects are closed
sets of texts in the source and inductive types here; `Category.name` is the text of a category
where the source uses it as a field name. Timestamps are microseconds since `datetime.min`.
-/

namespace MegaraidDashboard.Db

inductive Severity where
  | info
  | warning
  | critical
deriving DecidableEq, Repr

inductive Category where
  | controllerAlarmSettingChanged
  | pdState
  | vdState
  | cvState
  | smartAlert
  | mediaErrors
  | otherErrors
  | predictiveFailures
  | temperature
  | controllerTemperature
  | diskSpace
  | system
  | operatorAction
  | driveMarkUbad
  | driveMarkUgood
  | driveSpinDown
  | driveMakeHotSpare
  | driveReplaceBegin
  | driveReplaceOffline
  | driveReplaceMissing
  | driveReplaceInsertPending
  | driveReplaceCompleted
  | controllerBuzzerSilence
  | controllerBuzzerDisable
  | controllerBuzzerEnable
  | foreignConfigDetected
  | consistencyCheckInconsistency
deriving DecidableEq, Repr

/-- The stored text of a category. -/
def Category.name : Category → String
  | controllerAlarmSettingChanged => "controller_alarm_setting_changed"
  | pdState => "pd_state"
  | vdState => "vd_state"
  | cvState => "cv_state"
  | smartAlert => "smart_alert"
  | mediaErrors => "media_errors"
  | otherErrors => "other_errors"
  | predictiveFailures => "predictive_failures"
  | temperature => "temperature"
  | controllerTemperature => "controller_temperature"
  | diskSpace => "disk_space"
  | system => "system"
  | operatorAction => "operator_action"
  | driveMarkUbad => "drive_mark_ubad"
  | driveMarkUgood => "drive_mark_ugood"
  | driveSpinDown => "drive_spin_down"
  | driveMakeHotSpare => "drive_make_hot_spare"
  | driveReplaceBegin => "drive_replace_begin"
  | driveReplaceOffline => "drive_replace_offline"
  | driveReplaceMissing => "drive_replace_missing"
  | driveReplaceInsertPending => "drive_replace_insert_pending"
  | driveReplaceCompleted => "drive_replace_completed"
  | controllerBuzzerSilence => "controller_buzzer_silence"
  | controllerBuzzerDisable => "controller_buzzer_disable"
  | controllerBuzzerEnable => "controller_buzzer_enable"
  | foreignConfigDetected => "foreign_config_detected"
  | consistencyCheckInconsistency => "consistency_check_inconsistency"

/-- What an event is about. -/
inductive Subject where
  | controller
  | foreignConfig
  | cacheVault
  | virtualDrive (vdId : ℤ)
  | physicalDrive (enclosureId slotId : ℤ)
  | dataPartition
  | operatorAction
deriving DecidableEq, Repr

/-- The stored text of a subject. -/
def Subject.text : Subject → String
  | controller => "Controller"
  | foreignConfig => "Controller foreign config"
  | cacheVault => "CacheVault"
  | virtualDrive vdId => s!"VD {vdId}"
  | physicalDrive enclosureId slotId => s!"PD e{enclosureId}:s{slotId}"
  | dataPartition => "Data partition"
  | operatorAction => "Operator action"

/-- A JSON value of an event's before and after objects. -/
inductive Scalar where
  | null
  | bool (value : Bool)
  | int (value : ℤ)
  | str (value : String)
deriving DecidableEq, Repr

def Scalar.ofInt? : Option ℤ → Scalar
  | none => .null
  | some value => .int value

def Scalar.ofStr? : Option String → Scalar
  | none => .null
  | some value => .str value

/-- A JSON object with distinct field names, in insertion order. -/
abbrev Payload := List (String × Scalar)

namespace Payload

/-- `payload.get(field)`, the empty result for an absent field. -/
def get (payload : Payload) (field : String) : Option Scalar :=
  (payload.find? fun entry => entry.1 == field).map Prod.snd

def fields (payload : Payload) : List String := payload.map Prod.fst

/-- `{**payload, field: value}` -/
def set (payload : Payload) (field : String) (value : Scalar) : Payload :=
  if payload.any fun entry => entry.1 == field then
    payload.map fun entry => if entry.1 == field then (field, value) else entry
  else payload ++ [(field, value)]

@[simp] theorem get_nil (key : String) : get [] key = none := rfl

@[simp] theorem get_cons (entry : String × Scalar) (rest : Payload) (key : String) :
    get (entry :: rest) key = if entry.1 = key then some entry.2 else get rest key := by
  by_cases same : entry.1 = key
  · simp [get, same]
  · simp [get, same]

private theorem get_overwrite (payload : Payload) (field key : String) (value : Scalar) :
    get (payload.map fun entry => if entry.1 == field then (field, value) else entry) key =
      if field = key ∧ (payload.any fun entry => entry.1 == field) = true then some value
      else payload.get key := by
  induction payload with
  | nil => simp
  | cons entry rest ih =>
    rw [List.map_cons, get_cons, get_cons, ih]
    by_cases same : entry.1 = field
    · subst same
      by_cases found : entry.1 = key
      · simp [found]
      · simp [found]
    · have other : (entry.1 == field) = false := beq_eq_false_iff_ne.mpr same
      simp only [other, Bool.false_eq_true, ↓reduceIte, List.any_cons, Bool.false_or]
      by_cases found : entry.1 = key
      · have unset : field ≠ key := fun set => same (found.trans set.symm)
        simp only [found, unset, false_and, ↓reduceIte]
      · simp only [found, ↓reduceIte]

private theorem get_append_singleton (payload : Payload) (field key : String) (value : Scalar) :
    get (payload ++ [(field, value)]) key =
      (payload.get key).or (if field = key then some value else none) := by
  induction payload with
  | nil => simp
  | cons entry rest ih =>
    rw [List.cons_append, get_cons, get_cons, ih]
    split
    · simp
    · rfl

/-- A set field reads back, and every other field is left alone. -/
theorem get_set (payload : Payload) (field key : String) (value : Scalar) :
    (payload.set field value).get key = if field = key then some value else payload.get key := by
  rw [set]
  split
  · next present =>
    rw [get_overwrite, present]
    simp only [and_true]
  · next absent =>
    rw [get_append_singleton]
    split
    · next same =>
      subst same
      have missing : payload.get field = none := by
        rw [get, Option.map_eq_none_iff, List.find?_eq_none]
        intro entry member found
        exact absent (List.any_eq_true.mpr ⟨entry, member, found⟩)
      rw [missing, Option.none_or]
    · rw [Option.or_none]

end Payload

structure Event where
  id : ℕ
  occurredAt : ℤ
  severity : Severity
  category : Category
  subject : Subject
  summary : String
  beforeJson : Option Payload
  afterJson : Option Payload
  operatorUsername : Option String
  notifiedAt : Option ℤ
deriving DecidableEq, Repr

inductive DeliveryStatus where
  | sending
  | retry
  | sent
  | failed
  | skipped
deriving DecidableEq, Repr

/-- A row of `event_deliveries` with channel `telegram`, the only channel any code writes. -/
structure EventDelivery where
  status : DeliveryStatus
  attempts : ℕ
  lastAttemptAt : Option ℤ
  nextAttemptAt : Option ℤ
  deliveredAt : Option ℤ
  detail : Option String
deriving DecidableEq, Repr

/-- Rows of `event_deliveries` by `event_id`; the unique constraint is the table's key. -/
abbrev DeliveryTable := AList (fun _ : ℕ => EventDelivery)

structure VirtualDriveSnapshot where
  vdId : ℤ
  state : String
deriving DecidableEq, Repr

structure PhysicalDriveSnapshot where
  enclosureId : ℤ
  slotId : ℤ
  deviceId : ℤ
  serialNumber : String
  state : String
  diskGroupId : Option ℤ
  temperatureCelsius : Option ℤ
  mediaErrors : ℤ
  otherErrors : ℤ
  predictiveFailures : ℤ
  smartAlert : Bool
deriving DecidableEq, Repr

structure CacheVaultSnapshot where
  state : String
  temperatureCelsius : Option ℤ
  capacitancePercent : Option ℤ
  replacementRequired : Bool
deriving DecidableEq, Repr

structure ControllerSnapshot where
  id : ℕ
  capturedAt : ℤ
  alarmState : String
  cvPresent : Bool
  bbuPresent : Bool
  rocTemperatureCelsius : Option ℤ
  virtualDrives : List VirtualDriveSnapshot
  physicalDrives : List PhysicalDriveSnapshot
  cachevault : Option CacheVaultSnapshot
deriving DecidableEq, Repr

/-- Enclosure, slot and serial: the identity under which a drive's history is kept. -/
structure DriveKey where
  enclosureId : ℤ
  slotId : ℤ
  serialNumber : String
deriving DecidableEq, Repr

abbrev SlotKey := ℤ × ℤ

def DriveKey.slot (key : DriveKey) : SlotKey := (key.enclosureId, key.slotId)

def PhysicalDriveSnapshot.key (drive : PhysicalDriveSnapshot) : DriveKey :=
  ⟨drive.enclosureId, drive.slotId, drive.serialNumber⟩

inductive TempState where
  | ok
  | warning
  | critical
deriving DecidableEq, Repr

def TempState.name : TempState → String
  | ok => "ok"
  | warning => "warning"
  | critical => "critical"

/-- Rows of `pd_temp_states`; the unique constraint is the table's key. -/
abbrev TempStateTable := AList (fun _ : DriveKey => TempState)

end MegaraidDashboard.Db
