import MegaraidDashboard.Model.Services.EventDetector

/-! # Controller health

What the live pages show of a stored snapshot: the CacheVault and the controller, every drive and every
virtual drive are graded on their own, and the worst grade is shown.
-/

namespace MegaraidDashboard.Services

open Db Storcli

inductive ControllerHealth where
  | optimal
  | warning
  | critical
deriving DecidableEq, Repr

/-- The answers of `temperature_severity`. -/
inductive TemperatureGrade where
  | unknown
  | optimal
  | warning
  | critical
deriving DecidableEq, Repr

/-- `temperature_severity` -/
def temperatureSeverity (temperatureCelsius : Option ℤ) (tempWarning tempCritical : ℤ) : TemperatureGrade :=
  match temperatureCelsius with
  | none => .unknown
  | some temperature =>
    if tempCritical ≤ temperature then .critical
    else if tempWarning ≤ temperature then .warning
    else .optimal

/-- `_worst_controller_health` -/
def worstControllerHealth (current candidate : ControllerHealth) : ControllerHealth :=
  if candidate = .critical then .critical
  else if candidate = .warning ∧ current = .optimal then .warning
  else current

/-- The grade of the findings of an assessment. -/
def healthOfFindings (critical warning : List String) : ControllerHealth :=
  if critical ≠ [] then .critical else if warning ≠ [] then .warning else .optimal

/-! ## Drives -/

structure DriveHealthAssessment where
  severity : ControllerHealth
  label : String
  reasons : List String
deriving DecidableEq, Repr

/-- `_count` -/
def countText (value : ℤ) (description : String) : String :=
  s!"{value} {description}" ++ (if value = 1 then "" else "s") ++ "."

/-- `state_faults` -/
def stateFault : String → Option String
  | "failed" => some "Controller reports drive failure."
  | "offline" => some "Drive is offline."
  | "missing" => some "No drive detected."
  | "ubad" => some "Controller marks drive unusable (UBad)."
  | _ => none

section Assessments

variable [PyText]

/-- The list `critical` of `assess_drive_health`. -/
def driveCriticalFindings (drive : PhysicalDriveSnapshot) (temperature : TemperatureGrade) : List String :=
  (stateFault (normalizedState drive.state)).toList ++
    (if drive.smartAlert then ["S.M.A.R.T. alert is active."] else []) ++
    (if 0 < drive.predictiveFailures then [countText drive.predictiveFailures "predictive failure"] else []) ++
    (if temperature = .critical then ["Drive temperature is critical."] else [])

/-- The list `warning` of `assess_drive_health`. -/
def driveWarningFindings (drive : PhysicalDriveSnapshot) (temperature : TemperatureGrade) : List String :=
  let state := normalizedState drive.state
  (if (stateFault state).isSome then []
    else if state ∈ ["rbld", "rebld", "rebuild", "rebuilding"] then ["Rebuild in progress."]
    else if state = "jbod" then ["JBOD drive; not a RAID member."]
    else if state ∈ ["onln", "online", "ugood", "dhs", "ghs"] then []
    else [s!"Unrecognized drive state: {drive.state}."]) ++
    (if temperature = .warning then ["Drive temperature is elevated."] else []) ++
    (if 0 < drive.mediaErrors then [countText drive.mediaErrors "historical media error"] else []) ++
    (if 0 < drive.otherErrors then [countText drive.otherErrors "other error"] else [])

/-- The label of an assessment with this grade. -/
def driveHealthLabel (drive : PhysicalDriveSnapshot) : ControllerHealth → String
  | .critical => "Critical"
  | .warning => "Attention"
  | .optimal =>
    if normalizedState drive.state = "ugood" then "Ready"
    else if normalizedState drive.state ∈ ["dhs", "ghs"] then "Hot spare"
    else "Healthy"

/-- `assess_drive_health` -/
def assessDriveHealth (drive : PhysicalDriveSnapshot) (temperature : TemperatureGrade) : DriveHealthAssessment :=
  let critical := driveCriticalFindings drive temperature
  let warning := driveWarningFindings drive temperature
  let severity := healthOfFindings critical warning
  ⟨severity, driveHealthLabel drive severity, critical ++ warning⟩

/-! ## The controller -/

structure ControllerComponentHealth where
  severity : ControllerHealth
  reasons : List String
deriving DecidableEq, Repr

/-- The list `critical` of `assess_controller_components`. -/
def componentCriticalFindings (snapshot : ControllerSnapshot) (settings : Option Settings) : List String :=
  (match snapshot.cachevault with
  | none => if snapshot.cvPresent then [] else ["CacheVault is not detected."]
  | some cachevault =>
    (if normalizedState cachevault.state ≠ "optimal" then [s!"CacheVault reports {cachevault.state}."] else []) ++
      (if cachevault.replacementRequired then ["CacheVault replacement is required."] else [])) ++
  (match settings, snapshot.rocTemperatureCelsius with
  | some settings, some temperature =>
    if settings.rocTempCriticalCelsius ≤ temperature then ["Controller temperature is critical."] else []
  | _, _ => [])

/-- The list `warning` of `assess_controller_components`. -/
def componentWarningFindings (snapshot : ControllerSnapshot) (settings : Option Settings) : List String :=
  (match snapshot.cachevault with
  | none => if snapshot.cvPresent then ["CacheVault status is unverified."] else []
  | some cachevault =>
    (if snapshot.cvPresent then [] else ["CacheVault presence evidence conflicts."]) ++
      (match settings, cachevault.capacitancePercent with
      | some settings, some percent =>
        if percent < settings.cvCapacitanceWarningPercent then ["CacheVault capacitance is below the warning threshold."]
        else []
      | _, _ => [])) ++
  (match settings, snapshot.rocTemperatureCelsius with
  | some settings, some temperature =>
    if settings.rocTempCriticalCelsius ≤ temperature then []
    else if settings.rocTempWarningCelsius ≤ temperature then ["Controller temperature is elevated."]
    else []
  | _, _ => [])

/-- `assess_controller_components` -/
def assessControllerComponents (snapshot : ControllerSnapshot) (settings : Option Settings) :
    ControllerComponentHealth :=
  let critical := componentCriticalFindings snapshot settings
  let warning := componentWarningFindings snapshot settings
  ⟨healthOfFindings critical warning, critical ++ warning⟩

/-- `_event_severity_to_status` -/
def eventSeverityToStatus : Severity → ControllerHealth
  | .info => .optimal
  | .warning => .warning
  | .critical => .critical

/-- `_virtual_drive_controller_health_status` -/
def virtualDriveControllerHealthStatus (virtualDrives : List VirtualDriveSnapshot) : ControllerHealth :=
  virtualDrives.foldl (fun severity drive =>
    worstControllerHealth severity (eventSeverityToStatus (virtualDriveStateSeverity drive.state))) .optimal

/-- The grade that `_physical_drive_aggregate_status` gives a drive. -/
def driveSeverity (settings : Option Settings) (drive : PhysicalDriveSnapshot) : ControllerHealth :=
  let temperature := match settings with
    | none => .unknown
    | some settings =>
      temperatureSeverity drive.temperatureCelsius settings.tempWarningCelsius settings.tempCriticalCelsius
  (assessDriveHealth drive temperature).severity

/-- `_physical_drive_aggregate_status` -/
def physicalDriveAggregateStatus (physicalDrives : List PhysicalDriveSnapshot) (settings : Option Settings) :
    ControllerHealth :=
  physicalDrives.foldl (fun severity drive => worstControllerHealth severity (driveSeverity settings drive)) .optimal

/-- `derive_controller_health` -/
def deriveControllerHealth (snapshot : ControllerSnapshot) (physicalDrives : List PhysicalDriveSnapshot)
    (virtualDrives : List VirtualDriveSnapshot) (physicalDriveSeverity : Option ControllerHealth)
    (settings : Option Settings) : ControllerHealth :=
  let components := (assessControllerComponents snapshot settings).severity
  let drives := physicalDriveSeverity.getD (physicalDriveAggregateStatus physicalDrives settings)
  let severity := worstControllerHealth (worstControllerHealth components drives)
    (virtualDriveControllerHealthStatus virtualDrives)
  if physicalDrives = [] ∨ virtualDrives = [] then .critical else severity

end Assessments

end MegaraidDashboard.Services
