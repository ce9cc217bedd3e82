import MegaraidDashboard.ToMathlib.ListQueries
import MegaraidDashboard.Model.Db.Retention
import Mathlib.Data.List.Dedup
import Mathlib.Data.Prod.Lex
import Mathlib.Data.Int.Order.Basic

/-! # The history of a drive slot

The charts of a slot merge raw readings, hourly rows and daily rows of one window. Averages are floating-point
numbers, which the merge copies and compares with `None` only; their type is a variable.
-/

namespace MegaraidDashboard.Services

open Db

inductive HistorySource where
  | daily
  | hourly
  | raw
deriving DecidableEq, Repr

/-- `_source_chronology_rank` -/
def HistorySource.chronologyRank : HistorySource → ℕ
  | daily => 0
  | hourly => 1
  | raw => 2

structure DriveHistoryPointKey where
  source : HistorySource
  sourceId : ℕ
deriving DecidableEq, Repr

/-- `_series_sort_key` -/
def seriesSortKey (timestamp : ℤ) (pointKey : DriveHistoryPointKey) : ℤ ×ₗ ℕ ×ₗ ℕ :=
  toLex (timestamp, toLex (pointKey.source.chronologyRank, pointKey.sourceId))

structure DriveReplacementMarker where
  timestamp : ℤ
  previousSerialNumber : String
  currentSerialNumber : String
deriving DecidableEq, Repr

/-- `_SerialPoint` -/
structure SerialPoint where
  timestamp : ℤ
  serialNumber : String
  pointKey : DriveHistoryPointKey
deriving DecidableEq, Repr

/-- `_RawPoint` -/
structure RawPoint where
  timestamp : ℤ
  serialNumber : String
  pointKey : DriveHistoryPointKey
  temperatureCelsius : Option ℤ
  mediaErrors : ℤ
  otherErrors : ℤ
  predictiveFailures : ℤ

/-- `_AggregatePoint` -/
structure AggregatePoint (Celsius : Type) where
  timestamp : ℤ
  serialNumber : String
  pointKey : DriveHistoryPointKey
  temperatureCelsiusMin : Option ℤ
  temperatureCelsiusMax : Option ℤ
  temperatureCelsiusAvg : Option Celsius
  mediaErrorsMax : ℤ
  otherErrorsMax : ℤ
  predictiveFailuresMax : ℤ

def RawPoint.serialPoint (point : RawPoint) : SerialPoint :=
  ⟨point.timestamp, point.serialNumber, point.pointKey⟩

def AggregatePoint.serialPoint {Celsius : Type} (point : AggregatePoint Celsius) : SerialPoint :=
  ⟨point.timestamp, point.serialNumber, point.pointKey⟩

/-- A row of `physical_drive_snapshots` joined with its snapshot. -/
structure RawRow where
  id : ℕ
  reading : Reading

/-- A row of `pd_metrics_hourly` or `pd_metrics_daily`. -/
structure MetricsRow (Celsius : Type) where
  id : ℕ
  key : BucketKey
  metrics : PhysicalDriveMetrics
  temperatureCelsiusAvg : Option Celsius

/-- The three tables with their primary keys. -/
structure HistoryTables (Celsius : Type) where
  raw : List RawRow
  hourly : List (MetricsRow Celsius)
  daily : List (MetricsRow Celsius)
  rawIds : (raw.map (·.id)).Nodup
  hourlyIds : (hourly.map (·.id)).Nodup
  dailyIds : (daily.map (·.id)).Nodup

/-- The arguments of a series. -/
structure HistoryQuery where
  enclosureId : ℤ
  slotId : ℤ
  currentSerialNumber : String
  rangeDays : ℤ
  now : ℤ

inductive HistoryError where
  | valueError (message : String)
  | overflowError
deriving DecidableEq, Repr

variable {Celsius : Type}

def RawRow.point (row : RawRow) : RawPoint where
  timestamp := row.reading.capturedAt
  serialNumber := row.reading.drive.serialNumber
  pointKey := ⟨.raw, row.id⟩
  temperatureCelsius := row.reading.drive.temperatureCelsius
  mediaErrors := row.reading.drive.mediaErrors
  otherErrors := row.reading.drive.otherErrors
  predictiveFailures := row.reading.drive.predictiveFailures

def MetricsRow.point (source : HistorySource) (row : MetricsRow Celsius) : AggregatePoint Celsius where
  timestamp := row.key.bucketStart
  serialNumber := row.key.drive.serialNumber
  pointKey := ⟨source, row.id⟩
  temperatureCelsiusMin := row.metrics.temperatureMin
  temperatureCelsiusMax := row.metrics.temperatureMax
  temperatureCelsiusAvg := row.temperatureCelsiusAvg
  mediaErrorsMax := row.metrics.mediaErrorsMax
  otherErrorsMax := row.metrics.otherErrorsMax
  predictiveFailuresMax := row.metrics.predictiveFailuresMax

/-- The `where` clauses of the three statements: the slot, and the window with both ends. -/
def HistoryQuery.inWindow (query : HistoryQuery) (cutoff : ℤ) (drive : DriveKey) (timestamp : ℤ) : Bool :=
  decide (drive.enclosureId = query.enclosureId) && decide (drive.slotId = query.slotId) &&
    decide (cutoff ≤ timestamp) && decide (timestamp ≤ query.now)

/-- `_load_raw_points` -/
def loadRawPoints (rows : List RawRow) (query : HistoryQuery) (cutoff : ℤ) : List RawPoint :=
  ((rows.filter fun row => query.inWindow cutoff row.reading.drive.key row.reading.capturedAt).orderBy
    fun row => toLex (row.reading.capturedAt, row.id)).map RawRow.point

/-- The common body of `_load_hourly_points` and `_load_daily_points`. -/
def loadAggregatePoints (source : HistorySource) (rows : List (MetricsRow Celsius)) (query : HistoryQuery)
    (cutoff : ℤ) : List (AggregatePoint Celsius) :=
  ((rows.filter fun row => query.inWindow cutoff row.key.drive row.key.bucketStart).orderBy
    fun row => toLex (row.key.bucketStart, row.id)).map (MetricsRow.point source)

/-- `_load_hourly_points` -/
def loadHourlyPoints (rows : List (MetricsRow Celsius)) (query : HistoryQuery) (cutoff : ℤ) :
    List (AggregatePoint Celsius) :=
  loadAggregatePoints .hourly rows query cutoff

/-- `_load_daily_points` -/
def loadDailyPoints (rows : List (MetricsRow Celsius)) (query : HistoryQuery) (cutoff : ℤ) :
    List (AggregatePoint Celsius) :=
  loadAggregatePoints .daily rows query cutoff

/-- `_SelectedHistoryRows` -/
structure SelectedHistoryRows (Celsius : Type) where
  raw : List RawPoint
  hourly : List (AggregatePoint Celsius)
  daily : List (AggregatePoint Celsius)

def SelectedHistoryRows.serialNumbers (rows : SelectedHistoryRows Celsius) : List String :=
  rows.raw.map (·.serialNumber) ++ rows.hourly.map (·.serialNumber) ++ rows.daily.map (·.serialNumber)

/-- `_select_rows_for_serial_window` -/
def selectRowsForSerialWindow (rows : SelectedHistoryRows Celsius) (currentSerialNumber : String) :
    SelectedHistoryRows Celsius :=
  let includeAllSlotSerials := 1 < rows.serialNumbers.dedup.length
  if includeAllSlotSerials then rows
  else
    { raw := rows.raw.filter fun row => row.serialNumber == currentSerialNumber
      hourly := rows.hourly.filter fun row => row.serialNumber == currentSerialNumber
      daily := rows.daily.filter fun row => row.serialNumber == currentSerialNumber }

/-- `_load_selected_history_rows`; `timedelta` cannot reach behind the first day of `datetime`. -/
def loadSelectedHistoryRows (tables : HistoryTables Celsius) (query : HistoryQuery) :
    Except HistoryError (SelectedHistoryRows Celsius) :=
  if query.rangeDays ≤ 0 then .error (.valueError "range_days must be positive")
  else
    match Timestamp.minusDays query.now query.rangeDays.toNat with
    | none => .error .overflowError
    | some cutoff =>
      let selected := selectRowsForSerialWindow
        { raw := loadRawPoints tables.raw query cutoff
          hourly := loadHourlyPoints tables.hourly query cutoff
          daily := loadDailyPoints tables.daily query cutoff } query.currentSerialNumber
      .ok { raw := selected.raw.orderBy fun row => seriesSortKey row.timestamp row.pointKey
            hourly := selected.hourly.orderBy fun row => seriesSortKey row.timestamp row.pointKey
            daily := selected.daily.orderBy fun row => seriesSortKey row.timestamp row.pointKey }

/-- The part that `_temperature_rows` and `_error_rows` share: the aggregates outside the covered buckets. -/
def SelectedHistoryRows.uncovered (selected : SelectedHistoryRows Celsius) : SelectedHistoryRows Celsius :=
  let rawCoveredHours : List (ℤ × String) :=
    selected.raw.map fun raw => (Timestamp.hourBucket raw.timestamp, raw.serialNumber)
  let hourlyRows := selected.hourly.filter fun hourly =>
    decide ((hourly.timestamp, hourly.serialNumber) ∉ rawCoveredHours)
  let rawCoveredDays : List (ℤ × String) :=
    selected.raw.map fun raw => (Timestamp.dayBucket raw.timestamp, raw.serialNumber)
  let hourlyCoveredDays : List (ℤ × String) :=
    hourlyRows.map fun hourly => (Timestamp.dayBucket hourly.timestamp, hourly.serialNumber)
  let dailyRows := selected.daily.filter fun daily =>
    decide ((daily.timestamp, daily.serialNumber) ∉ rawCoveredDays) &&
      decide ((daily.timestamp, daily.serialNumber) ∉ hourlyCoveredDays)
  ⟨selected.raw, hourlyRows, dailyRows⟩

/-- `_temperature_rows` -/
def temperatureRows (selected : SelectedHistoryRows Celsius) : SelectedHistoryRows Celsius :=
  SelectedHistoryRows.uncovered
    { raw := selected.raw.filter fun raw => raw.temperatureCelsius.isSome
      hourly := selected.hourly.filter fun hourly => hourly.temperatureCelsiusAvg.isSome
      daily := selected.daily.filter fun daily => daily.temperatureCelsiusAvg.isSome }

/-- `_error_rows` -/
def errorRows (selected : SelectedHistoryRows Celsius) : SelectedHistoryRows Celsius := selected.uncovered

/-- One point of `_replacement_markers`: the serial before it, and the markers so far. -/
def replacementMarkerStep (found : Option String × List DriveReplacementMarker) (point : SerialPoint) :
    Option String × List DriveReplacementMarker :=
  match found with
  | (none, markers) => (some point.serialNumber, markers)
  | (some previous, markers) =>
    if previous = point.serialNumber then (some previous, markers)
    else (some point.serialNumber, markers ++ [⟨point.timestamp, previous, point.serialNumber⟩])

/-- `_replacement_markers` -/
def replacementMarkers (points : List SerialPoint) : List DriveReplacementMarker :=
  ((points.orderBy fun point => seriesSortKey point.timestamp point.pointKey).foldl replacementMarkerStep
    (none, [])).2

/-- The fields that both series have. -/
structure DriveSeries where
  timestamps : List ℤ
  serialNumbers : List String
  pointKeys : List DriveHistoryPointKey
  replacementMarkers : List DriveReplacementMarker
  rawPointCount : ℕ
  hourlyPointCount : ℕ
  dailyPointCount : ℕ

structure DriveTemperatureSeries (Celsius : Type) extends DriveSeries where
  averageCelsius : List Celsius
  minimumCelsius : List (Option Celsius)
  maximumCelsius : List (Option Celsius)

structure DriveErrorSeries extends DriveSeries where
  mediaErrors : List ℤ
  otherErrors : List ℤ
  predictiveFailures : List ℤ

/-- A raw point as an aggregate of itself. -/
def RawPoint.aggregate (float : ℤ → Celsius) (raw : RawPoint) : AggregatePoint Celsius where
  timestamp := raw.timestamp
  serialNumber := raw.serialNumber
  pointKey := raw.pointKey
  temperatureCelsiusMin := raw.temperatureCelsius
  temperatureCelsiusMax := raw.temperatureCelsius
  temperatureCelsiusAvg := raw.temperatureCelsius.map float
  mediaErrorsMax := raw.mediaErrors
  otherErrorsMax := raw.otherErrors
  predictiveFailuresMax := raw.predictiveFailures

/-- The rows of the three layers in one list. -/
def SelectedHistoryRows.points (float : ℤ → Celsius) (rows : SelectedHistoryRows Celsius) :
    List (AggregatePoint Celsius) :=
  rows.raw.map (RawPoint.aggregate float) ++ rows.hourly ++ rows.daily

/-- The common fields of the series of these points. -/
def driveSeries (points : List (AggregatePoint Celsius)) (rows : SelectedHistoryRows Celsius) : DriveSeries where
  timestamps := points.map (·.timestamp)
  serialNumbers := points.map (·.serialNumber)
  pointKeys := points.map (·.pointKey)
  replacementMarkers := replacementMarkers (points.map AggregatePoint.serialPoint)
  rawPointCount := rows.raw.length
  hourlyPointCount := rows.hourly.length
  dailyPointCount := rows.daily.length

/-- `_require_float` -/
def requireFloat : Option Celsius → Except HistoryError Celsius
  | none => .error (.valueError "temperature average must be present before serialization")
  | some value => .ok value

/-- `load_drive_temperature_series` -/
def loadDriveTemperatureSeries (float : ℤ → Celsius) (tables : HistoryTables Celsius) (query : HistoryQuery) :
    Except HistoryError (DriveTemperatureSeries Celsius) := do
  let selected ← loadSelectedHistoryRows tables query
  let rows := temperatureRows selected
  let points := ((rows.points float).filter fun point => point.temperatureCelsiusAvg.isSome).orderBy
    fun point => seriesSortKey point.timestamp point.pointKey
  let averageCelsius ← points.mapM fun point => requireFloat point.temperatureCelsiusAvg
  return { driveSeries points rows with
    averageCelsius
    minimumCelsius := points.map fun point => point.temperatureCelsiusMin.map float
    maximumCelsius := points.map fun point => point.temperatureCelsiusMax.map float }

/-- `load_drive_error_series` -/
def loadDriveErrorSeries (float : ℤ → Celsius) (tables : HistoryTables Celsius) (query : HistoryQuery) :
    Except HistoryError DriveErrorSeries := do
  let selected ← loadSelectedHistoryRows tables query
  let rows := errorRows selected
  let points := (rows.points float).orderBy fun point => seriesSortKey point.timestamp point.pointKey
  return { driveSeries points rows with
    mediaErrors := points.map (·.mediaErrorsMax)
    otherErrors := points.map (·.otherErrorsMax)
    predictiveFailures := points.map (·.predictiveFailuresMax) }

end MegaraidDashboard.Services
