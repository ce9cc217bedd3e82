import MegaraidDashboard.Model.Config
import MegaraidDashboard.Model.Storcli.Models
import MegaraidDashboard.Model.Storcli.States

/-! # The event detector

`detect` compares the last saved snapshot with the current one. Slots and virtual drives are unique
in an accepted snapshot, so a lookup by slot or by identifier finds the only row. The dictionaries
of the source that are only read by key are lookups here; the temperature updates keep their order.
-/

namespace MegaraidDashboard.Services

open Db Storcli

structure DetectedEvent where
  severity : Severity
  category : Category
  subject : Subject
  summary : String
  before : Option Payload
  after : Option Payload
deriving DecidableEq, Repr

/-- The attributes of `EventDetector` that change while it runs. -/
structure EventDetector where
  temperatureStates : TempStateTable
  temperatureUpdates : List (DriveKey × TempState)
  temperatureClears : List SlotKey
  previousForeignConfigPresent : Option Bool

/-- `EventDetector.__init__` -/
def EventDetector.initial : EventDetector := ⟨∅, [], [], none⟩

/-! ## Severities -/

section Severities

variable [PyText]

/-- `virtual_drive_state_severity` -/
def virtualDriveStateSeverity (state : String) : Severity :=
  let normalized := normalizedState state
  if normalized ∈ ["optl", "optimal"] then .info
  else if normalized ∈ ["degraded", "dgrd", "partially degraded", "pdgd", "failed", "offline", "offln",
      "ofln"] then .critical
  else .warning

/-- `physical_drive_state_severity`; its first argument is not read. -/
def physicalDriveStateSeverity (currentState : String) : Severity :=
  let normalized := normalizedState currentState
  if normalized ∈ ["failed", "missing", "offline", "ubad"] then .critical
  else if normalized ∈ ["jbod", "ugood"] then .warning
  else .info

/-- `_cachevault_state_severity` -/
def cachevaultStateSeverity (state : String) : Severity :=
  if normalizedState state = "optimal" then .info else .critical

end Severities

/-! ## Events -/

/-- `_presence_event` -/
def presenceEvent (category : Category) (subject : Subject) (present : Bool) (state : String)
    (previousState serial : Option String) : DetectedEvent where
  severity := if present then .info else .critical
  category := category
  subject := subject
  summary := subject.text ++ (if present then " detected" else " no longer detected")
  before := some [("present", .bool !present), ("state", .ofStr? previousState)]
  after := some ([("present", .bool present), ("state", .str state)] ++
    (serial.map fun serial => ("serial_number", Scalar.str serial)).toList)

def physicalDriveSubject (drive : PhysicalDrive) : Subject := .physicalDrive drive.enclosureId drive.slotId

def snapshotDriveSubject (drive : PhysicalDriveSnapshot) : Subject :=
  .physicalDrive drive.enclosureId drive.slotId

/-- `_drive_key` -/
def driveKey (drive : PhysicalDrive) : DriveKey := ⟨drive.enclosureId, drive.slotId, drive.serialNumber⟩

def slotKey (drive : PhysicalDrive) : SlotKey := (drive.enclosureId, drive.slotId)

def snapshotSlotKey (drive : PhysicalDriveSnapshot) : SlotKey := (drive.enclosureId, drive.slotId)

/-- `_roc_temperature_event` -/
def rocTemperatureEvent (severity : Severity) (summary : String) (previousTemperature : Option ℤ)
    (currentTemperature : ℤ) : DetectedEvent where
  severity := severity
  category := .controllerTemperature
  subject := .controller
  summary := summary
  before := some [("roc_temperature_celsius", .ofInt? previousTemperature)]
  after := some [("roc_temperature_celsius", .int currentTemperature)]

/-- `_temperature_event` -/
def temperatureEvent (drive : PhysicalDrive) (severity : Severity) (summary : String)
    (beforeState afterState : TempState) : DetectedEvent where
  severity := severity
  category := .temperature
  subject := physicalDriveSubject drive
  summary := summary
  before := some [("state", .str beforeState.name), ("temperature_celsius", .ofInt? drive.temperatureCelsius)]
  after := some [("state", .str afterState.name), ("temperature_celsius", .ofInt? drive.temperatureCelsius)]

/-- `_smart_alert_event` -/
def smartAlertEvent (previousSmartAlert : Option Bool) (current : PhysicalDrive) : DetectedEvent where
  severity := .critical
  category := .smartAlert
  subject := physicalDriveSubject current
  summary := "SMART alert flagged by drive"
  before := previousSmartAlert.map fun alert => [("smart_alert", .bool alert)]
  after := some [("smart_alert", .bool current.smartAlert)]

/-- One row of the table that both counter functions walk. -/
structure CounterField where
  severity : Severity
  category : Category
  label : String
  current : PhysicalDrive → ℤ
  previous : PhysicalDriveSnapshot → ℤ

def counterFields : List CounterField := [
  ⟨.critical, .mediaErrors, "Media error count", (·.mediaErrors), (·.mediaErrors)⟩,
  ⟨.warning, .otherErrors, "Other error count", (·.otherErrors), (·.otherErrors)⟩,
  ⟨.critical, .predictiveFailures, "Predictive failure count", (·.predictiveFailures),
    (·.predictiveFailures)⟩]

/-- `_new_counter_events`; the field of the payload carries the name of the category. -/
def newCounterEvents (current : PhysicalDrive) : List DetectedEvent :=
  counterFields.filterMap fun field =>
    let afterValue := field.current current
    if afterValue ≤ 0 then none
    else some {
      severity := field.severity
      category := field.category
      subject := physicalDriveSubject current
      summary := s!"{field.label} is {afterValue}"
      before := none
      after := some [(field.category.name, .int afterValue)] }

/-- `_counter_events` -/
def counterEvents (previous : PhysicalDriveSnapshot) (current : PhysicalDrive) : List DetectedEvent :=
  counterFields.filterMap fun field =>
    let beforeValue := field.previous previous
    let afterValue := field.current current
    if beforeValue ≥ afterValue then none
    else some {
      severity := field.severity
      category := field.category
      subject := physicalDriveSubject current
      summary := s!"{field.label} increased from {beforeValue} to {afterValue}"
      before := some [(field.category.name, .int beforeValue)]
      after := some [(field.category.name, .int afterValue)] }

section Drives

variable [PyText]

/-- `_new_virtual_drive_event` -/
def newVirtualDriveEvent (virtualDrive : VirtualDrive) : Option DetectedEvent :=
  let severity := virtualDriveStateSeverity virtualDrive.state
  if severity = .info then none
  else some {
    severity := severity
    category := .vdState
    subject := .virtualDrive virtualDrive.vdId
    summary := s!"VD {virtualDrive.vdId} state is {virtualDrive.state}"
    before := none
    after := some [("state", .str virtualDrive.state)] }

/-- `_physical_drive_state_event` -/
def physicalDriveStateEvent (previous : PhysicalDriveSnapshot) (current : PhysicalDrive) : DetectedEvent where
  severity := physicalDriveStateSeverity current.state
  category := .pdState
  subject := physicalDriveSubject current
  summary := s!"{(physicalDriveSubject current).text} state changed from {previous.state} to {current.state}"
  before := some [("state", .str previous.state)]
  after := some [("state", .str current.state)]

/-- `_new_physical_drive_events` -/
def newPhysicalDriveEvents (current : PhysicalDrive) : List DetectedEvent :=
  let severity := physicalDriveStateSeverity current.state
  (if severity = .info then [] else [{
    severity := severity
    category := .pdState
    subject := physicalDriveSubject current
    summary := s!"{(physicalDriveSubject current).text} state is {current.state}"
    before := none
    after := some [("state", .str current.state)] }]) ++
  newCounterEvents current ++ (if current.smartAlert then [smartAlertEvent none current] else [])

/-! ## Detection by object -/

/-- `_detect_controller` -/
def detectController (previous : ControllerSnapshot) (current : StorcliSnapshot) : List DetectedEvent :=
  let currentAlarm := current.controller.alarmState
  if previous.alarmState = currentAlarm then []
  else [{
    severity := .info
    category := .controllerAlarmSettingChanged
    subject := .controller
    summary := s!"Controller buzzer setting changed from {previous.alarmState} to {currentAlarm}"
    before := some [("alarm_state", .str previous.alarmState)]
    after := some [("alarm_state", .str currentAlarm)] }]

/-- The events of one virtual drive of the previous snapshot. -/
def previousVirtualDriveEvents (current : StorcliSnapshot) (previousDrive : VirtualDriveSnapshot) :
    List DetectedEvent :=
  match current.virtualDrives.find? fun drive => drive.vdId == previousDrive.vdId with
  | none => [presenceEvent .vdState (.virtualDrive previousDrive.vdId) false "Offline"
      (some previousDrive.state) none]
  | some currentDrive =>
    if normalizedState previousDrive.state = normalizedState currentDrive.state then []
    else [{
      severity := virtualDriveStateSeverity currentDrive.state
      category := .vdState
      subject := .virtualDrive previousDrive.vdId
      summary := s!"VD {previousDrive.vdId} state changed from {previousDrive.state} to {currentDrive.state}"
      before := some [("state", .str previousDrive.state)]
      after := some [("state", .str currentDrive.state)] }]

/-- The events of one virtual drive of the current snapshot. -/
def currentVirtualDriveEvents (previous : ControllerSnapshot) (currentDrive : VirtualDrive) :
    List DetectedEvent :=
  if previous.virtualDrives.any fun drive => drive.vdId == currentDrive.vdId then []
  else presenceEvent .vdState (.virtualDrive currentDrive.vdId) true currentDrive.state none none ::
    (newVirtualDriveEvent currentDrive).toList

/-- `_detect_virtual_drives` -/
def detectVirtualDrives (previous : ControllerSnapshot) (current : StorcliSnapshot) : List DetectedEvent :=
  previous.virtualDrives.flatMap (previousVirtualDriveEvents current) ++
    current.virtualDrives.flatMap (currentVirtualDriveEvents previous)

def previousBySlot (previous : ControllerSnapshot) (slot : SlotKey) : Option PhysicalDriveSnapshot :=
  previous.physicalDrives.find? fun drive => snapshotSlotKey drive == slot

/-- The previous drives whose slot is empty now. -/
def absentDrives (previous : ControllerSnapshot) (current : StorcliSnapshot) : List PhysicalDriveSnapshot :=
  previous.physicalDrives.filter fun drive => !(current.physicalDrives.map slotKey).contains (snapshotSlotKey drive)

/-- A slot that was empty or held another serial starts a new history. -/
def replaced (previous : ControllerSnapshot) (drive : PhysicalDrive) : Bool :=
  match previousBySlot previous (slotKey drive) with
  | none => true
  | some previousDrive => previousDrive.serialNumber != drive.serialNumber

/-- `replaced_slots` of `_detect_drive_replacements`. -/
def replacedSlots (previous : ControllerSnapshot) (current : StorcliSnapshot) : List SlotKey :=
  (current.physicalDrives.filter (replaced previous)).map slotKey

def replacementEvents (previous : ControllerSnapshot) (currentDrive : PhysicalDrive) : List DetectedEvent :=
  match previousBySlot previous (slotKey currentDrive) with
  | none => [presenceEvent .pdState (physicalDriveSubject currentDrive) true currentDrive.state none
      (some currentDrive.serialNumber)]
  | some previousDrive =>
    if previousDrive.serialNumber = currentDrive.serialNumber then []
    else [{
      severity := .info
      category := .pdState
      subject := physicalDriveSubject currentDrive
      summary := s!"Drive replaced: {previousDrive.serialNumber} -> {currentDrive.serialNumber}"
      before := some [("serial_number", .str previousDrive.serialNumber)]
      after := some [("serial_number", .str currentDrive.serialNumber)] }]

/-- The events of `_detect_drive_replacements`. -/
def detectDriveReplacements (previous : ControllerSnapshot) (current : StorcliSnapshot) :
    List DetectedEvent :=
  (absentDrives previous current).map (fun drive =>
    presenceEvent .pdState (snapshotDriveSubject drive) false "Missing" (some drive.state)
      (some drive.serialNumber)) ++
    current.physicalDrives.flatMap (replacementEvents previous)

/-- The slots that `_detect_drive_replacements` adds to `_temperature_clears`. -/
def temperatureClears (previous : ControllerSnapshot) (current : StorcliSnapshot) : List SlotKey :=
  (absentDrives previous current).map snapshotSlotKey ++ replacedSlots previous current

def physicalDriveEvents (previous : ControllerSnapshot) (replacedSlots : List SlotKey)
    (currentDrive : PhysicalDrive) : List DetectedEvent :=
  match previousBySlot previous (slotKey currentDrive) with
  | none => newPhysicalDriveEvents currentDrive
  | some previousDrive =>
    if replacedSlots.contains (slotKey currentDrive) then
      if normalizedState previousDrive.state ≠ normalizedState currentDrive.state then
        physicalDriveStateEvent previousDrive currentDrive :: newCounterEvents currentDrive ++
          (if currentDrive.smartAlert then [smartAlertEvent none currentDrive] else [])
      else newPhysicalDriveEvents currentDrive
    else
      (if normalizedState previousDrive.state ≠ normalizedState currentDrive.state then
        [physicalDriveStateEvent previousDrive currentDrive] else []) ++
      counterEvents previousDrive currentDrive ++
      (if currentDrive.smartAlert && !previousDrive.smartAlert then
        [smartAlertEvent (some previousDrive.smartAlert) currentDrive] else [])

/-- `_detect_physical_drives` -/
def detectPhysicalDrives (previous : ControllerSnapshot) (current : StorcliSnapshot)
    (replacedSlots : List SlotKey) : List DetectedEvent :=
  current.physicalDrives.flatMap (physicalDriveEvents previous replacedSlots)

/-- `_new_cachevault_events` -/
def newCachevaultEvents (settings : Settings) (cachevault : CacheVault) : List DetectedEvent :=
  let stateSeverity := cachevaultStateSeverity cachevault.state
  (if stateSeverity = .info then [] else [{
    severity := stateSeverity
    category := .cvState
    subject := .cacheVault
    summary := s!"CacheVault state is {cachevault.state}"
    before := none
    after := some [("state", .str cachevault.state)] }]) ++
  (if cachevault.replacementRequired then [{
    severity := .critical
    category := .cvState
    subject := .cacheVault
    summary := "CacheVault replacement required"
    before := none
    after := some [("replacement_required", .bool cachevault.replacementRequired)] }] else []) ++
  (match cachevault.capacitancePercent with
  | none => []
  | some percent =>
    if percent < settings.cvCapacitanceWarningPercent then [{
      severity := .warning
      category := .cvState
      subject := .cacheVault
      summary := s!"CacheVault capacitance below {settings.cvCapacitanceWarningPercent}%: {percent}%"
      before := none
      after := some [("capacitance_percent", .int percent)] }] else [])

/-- The branch of `_detect_cachevault` in which both snapshots have a CacheVault. -/
def cachevaultChangeEvents (settings : Settings) (previousCachevault : CacheVaultSnapshot)
    (currentCachevault : CacheVault) : List DetectedEvent :=
  (if normalizedState previousCachevault.state ≠ normalizedState currentCachevault.state then [{
    severity := cachevaultStateSeverity currentCachevault.state
    category := .cvState
    subject := .cacheVault
    summary := s!"CacheVault state changed from {previousCachevault.state} to {currentCachevault.state}"
    before := some [("state", .str previousCachevault.state)]
    after := some [("state", .str currentCachevault.state)] }] else []) ++
  (if currentCachevault.replacementRequired && !previousCachevault.replacementRequired then [{
    severity := .critical
    category := .cvState
    subject := .cacheVault
    summary := "CacheVault replacement required"
    before := some [("replacement_required", .bool previousCachevault.replacementRequired)]
    after := some [("replacement_required", .bool currentCachevault.replacementRequired)] }] else []) ++
  (match currentCachevault.capacitancePercent with
  | none => []
  | some percent =>
    if percent < settings.cvCapacitanceWarningPercent ∧
        ∀ previous ∈ previousCachevault.capacitancePercent, settings.cvCapacitanceWarningPercent ≤ previous then
      let previousValue := match previousCachevault.capacitancePercent with
        | none => "unknown"
        | some previous => s!"{previous}%"
      [{
        severity := .warning
        category := .cvState
        subject := .cacheVault
        summary := s!"CacheVault capacitance dropped below {settings.cvCapacitanceWarningPercent}%: {previousValue} -> {percent}%"
        before := some [("capacitance_percent", .ofInt? previousCachevault.capacitancePercent)]
        after := some [("capacitance_percent", .int percent)] }]
    else [])

/-- `_detect_cachevault` -/
def detectCachevault (settings : Settings) (previous : ControllerSnapshot) (current : StorcliSnapshot) :
    List DetectedEvent :=
  match current.cachevault, previous.cachevault with
  | none, previousCachevault =>
    if current.controller.cvPresent then []
    else if previousCachevault.isNone && !previous.cvPresent then []
    else [{
      severity := .critical
      category := .cvState
      subject := .cacheVault
      summary := "CacheVault no longer detected"
      before := some ([("present", .bool true)] ++
        (previousCachevault.map fun cachevault => ("state", Scalar.str cachevault.state)).toList)
      after := some [("present", .bool false)] }]
  | some currentCachevault, none =>
    (if previous.cvPresent then [] else [{
      severity := .info
      category := .cvState
      subject := .cacheVault
      summary := "CacheVault detected"
      before := some [("present", .bool false)]
      after := some [("present", .bool true), ("state", .str currentCachevault.state)] }]) ++
    newCachevaultEvents settings currentCachevault
  | some currentCachevault, some previousCachevault =>
    cachevaultChangeEvents settings previousCachevault currentCachevault

/-- `_detect_baseline` -/
def detectBaseline (settings : Settings) (current : StorcliSnapshot) : List DetectedEvent :=
  current.virtualDrives.filterMap newVirtualDriveEvent ++
    current.physicalDrives.flatMap newPhysicalDriveEvents ++
    (match current.cachevault with
    | some cachevault => newCachevaultEvents settings cachevault
    | none =>
      if current.controller.cvPresent then []
      else [{
        severity := .critical
        category := .cvState
        subject := .cacheVault
        summary := "CacheVault is not detected"
        before := none
        after := some [("present", .bool false)] }])

end Drives

/-- `_detect_roc_temperature` -/
def detectRocTemperature (settings : Settings) (previous : Option ControllerSnapshot)
    (current : StorcliSnapshot) : List DetectedEvent :=
  let warning := settings.rocTempWarningCelsius
  let critical := settings.rocTempCriticalCelsius
  let hysteresis := settings.rocTempHysteresisCelsius
  match current.controller.rocTemperatureCelsius, previous.bind (·.rocTemperatureCelsius) with
  | none, _ => []
  | some temperature, none =>
    (if warning ≤ temperature then [rocTemperatureEvent .warning
      s!"RoC temperature {temperature} C reached warning threshold ({warning} C) after unavailable sample"
      none temperature] else []) ++
    (if critical ≤ temperature then [rocTemperatureEvent .critical
      s!"RoC temperature {temperature} C reached critical threshold ({critical} C) after unavailable sample"
      none temperature] else [])
  | some temperature, some previousTemperature =>
    (if previousTemperature < warning ∧ warning ≤ temperature then [rocTemperatureEvent .warning
      s!"RoC temperature {temperature} C crossed warning threshold ({warning} C)"
      previousTemperature temperature] else []) ++
    (if previousTemperature < critical ∧ critical ≤ temperature then [rocTemperatureEvent .critical
      s!"RoC temperature {temperature} C crossed critical threshold ({critical} C)"
      previousTemperature temperature] else []) ++
    (if critical ≤ previousTemperature ∧ temperature ≤ critical - hysteresis then [rocTemperatureEvent .info
      s!"RoC temperature {temperature} C cleared critical threshold"
      previousTemperature temperature] else []) ++
    (if warning ≤ previousTemperature ∧ temperature ≤ warning - hysteresis then [rocTemperatureEvent .info
      s!"RoC temperature {temperature} C cleared warning threshold"
      previousTemperature temperature] else [])

/-! ## Drive temperatures -/

/-- One iteration of the loop in `_temperature_transitions`, or its exit. -/
def temperatureStep (settings : Settings) (drive : PhysicalDrive) (temperature : ℤ) (state : TempState) :
    Option (DetectedEvent × TempState) :=
  match state with
  | .ok =>
    if settings.tempWarningCelsius ≤ temperature then
      some (temperatureEvent drive .warning s!"Temperature reached warning threshold: {temperature} C"
        .ok .warning, .warning)
    else none
  | .warning =>
    if settings.tempCriticalCelsius ≤ temperature then
      some (temperatureEvent drive .critical s!"Temperature reached critical threshold: {temperature} C"
        .warning .critical, .critical)
    else if temperature < settings.tempWarningCelsius - settings.tempHysteresisCelsius then
      some (temperatureEvent drive .info s!"Temperature back to normal: {temperature} C" .warning .ok, .ok)
    else none
  | .critical =>
    if temperature < settings.tempCriticalCelsius - settings.tempHysteresisCelsius then
      some (temperatureEvent drive .info s!"Temperature back below critical: {temperature} C"
        .critical .warning, .warning)
    else none

/-- The loop with a bound on its iterations. -/
def temperatureLoop (settings : Settings) (drive : PhysicalDrive) (temperature : ℤ) :
    ℕ → TempState → List DetectedEvent × TempState
  | 0, state => ([], state)
  | fuel + 1, state =>
    match temperatureStep settings drive temperature state with
    | none => ([], state)
    | some (event, next) =>
      let result := temperatureLoop settings drive temperature fuel next
      (event :: result.1, result.2)

/-- `_temperature_transitions` of a drive with a reading; two iterations reach the exit. -/
def temperatureTransitions (settings : Settings) (drive : PhysicalDrive) (temperature : ℤ)
    (initialState : TempState) : List DetectedEvent × TempState :=
  temperatureLoop settings drive temperature 2 initialState

/-- `_temperature_state_from_reading` -/
def temperatureStateFromReading (settings : Settings) (temperature : ℤ) : TempState :=
  if settings.tempCriticalCelsius ≤ temperature then .critical
  else if settings.tempWarningCelsius ≤ temperature then .warning
  else .ok

/-- `_temperature_states_from_previous`, looked up. -/
def temperatureStateFromPrevious (settings : Settings) (previous : Option ControllerSnapshot)
    (key : DriveKey) : Option TempState := do
  let drive ← (← previous).physicalDrives.find? fun drive => drive.key == key
  return temperatureStateFromReading settings (← drive.temperatureCelsius)

/-- The state in which `_detect_temperatures` starts a drive. -/
def initialTemperatureState (settings : Settings) (states : TempStateTable)
    (previous : Option ControllerSnapshot) (replacedSlots : List SlotKey) (drive : PhysicalDrive) :
    TempState :=
  if replacedSlots.contains (slotKey drive) then .ok
  else ((states.lookup (driveKey drive)).or
    (temperatureStateFromPrevious settings previous (driveKey drive))).getD .ok

/-- The transitions of one drive, none without a reading. -/
def driveTransitions (settings : Settings) (states : TempStateTable) (previous : Option ControllerSnapshot)
    (replacedSlots : List SlotKey) (drive : PhysicalDrive) : Option (List DetectedEvent × TempState) :=
  drive.temperatureCelsius.map fun temperature =>
    temperatureTransitions settings drive temperature
      (initialTemperatureState settings states previous replacedSlots drive)

/-- The events of `_detect_temperatures`. -/
def detectTemperatures (settings : Settings) (states : TempStateTable) (previous : Option ControllerSnapshot)
    (current : StorcliSnapshot) (replacedSlots : List SlotKey) : List DetectedEvent :=
  current.physicalDrives.flatMap fun drive =>
    ((driveTransitions settings states previous replacedSlots drive).map Prod.fst).getD []

/-- The entries of `_temperature_updates`. -/
def temperatureUpdates (settings : Settings) (states : TempStateTable) (previous : Option ControllerSnapshot)
    (current : StorcliSnapshot) (replacedSlots : List SlotKey) : List (DriveKey × TempState) :=
  current.physicalDrives.filterMap fun drive =>
    (driveTransitions settings states previous replacedSlots drive).map fun result =>
      (driveKey drive, result.2)

/-! ## Foreign configuration -/

/-- The events of `_detect_foreign_config`. -/
def detectForeignConfig (previousPresent : Option Bool) (current : Option ForeignConfig) : List DetectedEvent :=
  match current with
  | none => []
  | some config =>
    if config.present && !previousPresent.getD false then [{
      severity := .warning
      category := .foreignConfigDetected
      subject := .foreignConfig
      summary := s!"Foreign configuration detected: {config.dgCount} DG, {config.driveCount} drives ({config.digest})"
      before := none
      after := some [("present", .bool true), ("dg_count", .int config.dgCount),
        ("drive_count", .int config.driveCount), ("digest", .str config.digest)] }]
    else if previousPresent.getD false && !config.present then [{
      severity := .info
      category := .foreignConfigDetected
      subject := .foreignConfig
      summary := "Foreign configuration cleared"
      before := some [("present", .bool true)]
      after := some [("present", .bool false)] }]
    else []

/-- The presence remembered after a poll; an unknown presence keeps the last one. -/
def rememberedForeignPresence (previousPresent : Option Bool) (current : Option ForeignConfig) :
    Option Bool :=
  match current with
  | none => previousPresent
  | some config => some config.present

/-! ## The whole detection -/

/-- The last step of `detect`: the serial of the drive that is in the slot now. -/
def attachSerial (current : StorcliSnapshot) (event : DetectedEvent) : DetectedEvent :=
  match current.physicalDrives.find? fun drive => physicalDriveSubject drive == event.subject with
  | none => event
  | some drive =>
    { event with after := some (Payload.set (event.after.getD []) "serial_number" (.str drive.serialNumber)) }

variable [PyText]

/-- The events that depend on the previous snapshot, or on its absence. -/
def comparisonEvents (settings : Settings) (previous : Option ControllerSnapshot) (current : StorcliSnapshot) :
    List DetectedEvent :=
  match previous with
  | none => detectBaseline settings current
  | some previous =>
    detectController previous current ++ detectVirtualDrives previous current ++
      detectDriveReplacements previous current ++
      detectPhysicalDrives previous current (replacedSlots previous current) ++
      detectCachevault settings previous current

def previousReplacedSlots (previous : Option ControllerSnapshot) (current : StorcliSnapshot) : List SlotKey :=
  match previous with
  | none => []
  | some previous => replacedSlots previous current

/-- The events that `detect` returns. -/
def detectedEvents (settings : Settings) (detector : EventDetector) (previous : Option ControllerSnapshot)
    (current : StorcliSnapshot) : List DetectedEvent :=
  (comparisonEvents settings previous current ++ detectRocTemperature settings previous current ++
    detectTemperatures settings detector.temperatureStates previous current
      (previousReplacedSlots previous current) ++
    detectForeignConfig detector.previousForeignConfigPresent current.foreignConfig).map
    (attachSerial current)

/-- The detector that `detect` leaves behind. -/
def detectorAfter (settings : Settings) (detector : EventDetector) (previous : Option ControllerSnapshot)
    (current : StorcliSnapshot) : EventDetector where
  temperatureStates := detector.temperatureStates
  temperatureUpdates := temperatureUpdates settings detector.temperatureStates previous current
    (previousReplacedSlots previous current)
  temperatureClears := match previous with
    | none => []
    | some previous => temperatureClears previous current
  previousForeignConfigPresent :=
    rememberedForeignPresence detector.previousForeignConfigPresent current.foreignConfig

/-- `EventDetector.detect` -/
def detect (settings : Settings) (detector : EventDetector) (previous : Option ControllerSnapshot)
    (current : StorcliSnapshot) : List DetectedEvent × EventDetector :=
  (detectedEvents settings detector previous current, detectorAfter settings detector previous current)

end MegaraidDashboard.Services
