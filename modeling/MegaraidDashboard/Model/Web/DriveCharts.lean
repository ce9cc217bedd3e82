import MegaraidDashboard.ToMathlib.FirstOccurrences
import MegaraidDashboard.Model.Config
import MegaraidDashboard.Model.Python.DateTime
import MegaraidDashboard.Model.Services.DriveHistory

/-! # The charts of a drive

The temperature chart and the error chart of a slot share one axis, which merges the points of both series. An
average is copied, compared and printed only; what its type offers for that is a parameter.
-/

namespace MegaraidDashboard.Web

open Services Db

/-- `_ALLOWED_CHART_RANGE_DAYS` -/
def allowedChartRangeDays : List ℤ := [7, 30, 365]

inductive ChartsError where
  /-- `HTTPException` -/
  | httpException (statusCode : ℕ) (detail : String)
  | history (error : HistoryError)
  /-- the `ValueError` of `zip(..., strict=True)` -/
  | zipLengths
deriving DecidableEq, Repr

/-- What the page does with an average: `float(n)`, `ceil(x + 5)` and `f"{x:.1f}"`. -/
structure ChartNumbers (Celsius : Type) where
  float : ℤ → Celsius
  headroom : Celsius → ℤ
  fixed : Celsius → String

/-- `_ChartPointKey` -/
structure ChartPointKey where
  timestamp : ℤ
  serialNumber : String
  historyPointKey : DriveHistoryPointKey
deriving DecidableEq, Repr

/-- The dictionary of a replacement marker. -/
structure ChartReplacementMarker where
  pointIndex : ℕ
  timestamp : String
  label : String
  previousSerialNumber : String
  currentSerialNumber : String
deriving DecidableEq, Repr

/-- The dictionary of the temperature chart without its colours and line styles. -/
structure TemperatureChart (Celsius : Type) where
  labels : List String
  averageTemperature : List (Option Celsius)
  warning : ℤ
  critical : ℤ
  warningThreshold : List ℤ
  criticalThreshold : List ℤ
  replacementMarkers : List ChartReplacementMarker
  yMin : ℤ
  yMax : ℤ

/-- The dictionary of the error chart without its colours and line styles. -/
structure ErrorChart where
  labels : List String
  mediaErrors : List (Option ℤ)
  otherErrors : List (Option ℤ)
  predictiveFailures : List (Option ℤ)
  replacementMarkers : List ChartReplacementMarker

structure TemperatureFallbackRow where
  timestamp : String
  averageCelsius : String
  minimumCelsius : String
  maximumCelsius : String
deriving DecidableEq, Repr

structure ErrorFallbackRow where
  timestamp : String
  mediaErrors : String
  otherErrors : String
  predictiveFailures : String
deriving DecidableEq, Repr

structure DriveChartsViewModel (Celsius : Type) where
  enclosureId : ℤ
  slotId : ℤ
  activeRangeDays : ℤ
  temperatureChart : TemperatureChart Celsius
  errorChart : ErrorChart
  temperatureRows : List TemperatureFallbackRow
  errorRows : List ErrorFallbackRow
  rawPointCount : ℕ
  hourlyPointCount : ℕ
  dailyPointCount : ℕ

/-- `_validate_range_days` -/
def validateRangeDays (rangeDays : ℤ) : Except ChartsError ℤ :=
  if rangeDays ∈ allowedChartRangeDays then .ok rangeDays
  else .error (.httpException 400 "range_days must be one of 7, 30, or 365")

/-- `zip(first, second, strict=True)` -/
def zipStrict {α β : Type} (first : List α) (second : List β) : Except ChartsError (List (α × β)) :=
  if first.length = second.length then .ok (first.zip second) else .error .zipLengths

/-- `_chart_timestamp_label`: by day for a year, by hour for a month, else by minute. -/
def chartTimestampLabel (timestamp rangeDays : ℤ) : String :=
  let date := Py.ord2ymd ((timestamp / Timestamp.day).toNat + 1)
  let minutes := (timestamp % Timestamp.day / Timestamp.second).toNat / 60
  let dateText := Py.zeroPadded 4 date.year ++ '-' :: Py.zeroPadded 2 date.month ++ '-' :: Py.zeroPadded 2 date.day
  let hourText := ' ' :: Py.zeroPadded 2 (minutes / 60) ++ [':']
  if rangeDays = 365 then String.ofList dateText
  else if rangeDays = 30 then String.ofList (dateText ++ hourText ++ "00".toList)
  else String.ofList (dateText ++ hourText ++ Py.zeroPadded 2 (minutes % 60))

/-- `_chart_point_keys` -/
def chartPointKeys (timestamps : List ℤ) (serialNumbers : List String) (historyPointKeys : List DriveHistoryPointKey) :
    Except ChartsError (List ChartPointKey) := do
  let entries ← zipStrict serialNumbers historyPointKeys
  let entries ← zipStrict timestamps entries
  return entries.map fun entry => ⟨entry.1, entry.2.1, entry.2.2⟩

/-- `_merge_chart_point_keys`: by time, and at one time the points of the error series before those that only the
temperature series has. -/
def mergeChartPointKeys (temperatureKeys errorKeys : List ChartPointKey) : List ChartPointKey :=
  let orderByKey := (errorKeys ++ temperatureKeys).firstIndices id
  (orderByKey.map Prod.fst).orderBy fun pointKey =>
    toLex (pointKey.timestamp, (orderByKey.lookup pointKey).getD 0)

/-- `_unique_replacement_markers` -/
def uniqueReplacementMarkers (temperatureSeries errorSeries : DriveSeries) : List DriveReplacementMarker :=
  (temperatureSeries.replacementMarkers ++ errorSeries.replacementMarkers).firstOccurrences

/-- The dictionary that the page gets for a replacement. -/
def chartReplacementMarker (rangeDays : ℤ) (marker : DriveReplacementMarker) (pointIndex : ℕ) :
    ChartReplacementMarker where
  pointIndex
  timestamp := chartTimestampLabel marker.timestamp rangeDays
  label := "Drive replaced"
  previousSerialNumber := marker.previousSerialNumber
  currentSerialNumber := marker.currentSerialNumber

/-- `_chart_replacement_markers` -/
def chartReplacementMarkers (temperatureSeries errorSeries : DriveSeries) (rangeDays : ℤ)
    (pointKeys : List ChartPointKey) : List ChartReplacementMarker :=
  let markerIndexes := pointKeys.firstIndices fun pointKey => (pointKey.timestamp, pointKey.serialNumber)
  (uniqueReplacementMarkers temperatureSeries errorSeries).filterMap fun marker =>
    (markerIndexes.lookup (marker.timestamp, marker.currentSerialNumber)).map (chartReplacementMarker rangeDays marker)

/-- The data of `_threshold_dataset`. -/
def thresholdDataset (value : ℤ) (pointCount : ℕ) : List ℤ := List.replicate pointCount value

/-- `rows[-24:]` -/
def fallbackWindow {ρ : Type} (rows : List ρ) : List ρ := rows.drop (rows.length - 24)

variable {Celsius : Type}

/-- `_temperature_chart_data` -/
def temperatureChartData (numbers : ChartNumbers Celsius) (labels : List String) (values : List (Option Celsius))
    (warningCelsius criticalCelsius : ℤ) (maxTemperature : Celsius) (replacementMarkers : List ChartReplacementMarker) :
    TemperatureChart Celsius where
  labels
  averageTemperature := values
  warning := warningCelsius
  critical := criticalCelsius
  warningThreshold := thresholdDataset warningCelsius labels.length
  criticalThreshold := thresholdDataset criticalCelsius labels.length
  replacementMarkers
  yMin := 20
  yMax := max (max (max 70 (numbers.headroom maxTemperature)) (warningCelsius + 5)) (criticalCelsius + 5)

/-- `_error_chart_data` -/
def errorChartData (labels : List String) (mediaErrors otherErrors predictiveFailures : List (Option ℤ))
    (replacementMarkers : List ChartReplacementMarker) : ErrorChart :=
  { labels, mediaErrors, otherErrors, predictiveFailures, replacementMarkers }

/-- `_temperature_fallback_rows` -/
def temperatureFallbackRows (numbers : ChartNumbers Celsius) (series : DriveTemperatureSeries Celsius) (rangeDays : ℤ) :
    Except ChartsError (List TemperatureFallbackRow) := do
  let limits ← zipStrict series.minimumCelsius series.maximumCelsius
  let values ← zipStrict series.averageCelsius limits
  let entries ← zipStrict series.timestamps values
  return fallbackWindow (entries.map fun (timestamp, average, minimum, maximum) =>
    { timestamp := chartTimestampLabel timestamp rangeDays
      averageCelsius := numbers.fixed average
      minimumCelsius := (minimum.map numbers.fixed).getD "Unknown"
      maximumCelsius := (maximum.map numbers.fixed).getD "Unknown" })

/-- `_error_fallback_rows` -/
def errorFallbackRows (series : DriveErrorSeries) (rangeDays : ℤ) : Except ChartsError (List ErrorFallbackRow) := do
  let failures ← zipStrict series.otherErrors series.predictiveFailures
  let values ← zipStrict series.mediaErrors failures
  let entries ← zipStrict series.timestamps values
  return fallbackWindow (entries.map fun (timestamp, mediaErrors, otherErrors, predictiveFailures) =>
    { timestamp := chartTimestampLabel timestamp rangeDays
      mediaErrors := toString mediaErrors
      otherErrors := toString otherErrors
      predictiveFailures := toString predictiveFailures })

/-- `_drive_charts_view_model`; the caller passes the time of a snapshot as `now_utc`. -/
def driveChartsViewModel [LinearOrder Celsius] (numbers : ChartNumbers Celsius) (settings : Settings)
    (tables : HistoryTables Celsius) (query : HistoryQuery) : Except ChartsError (DriveChartsViewModel Celsius) := do
  let resolvedRangeDays ← validateRangeDays query.rangeDays
  let temperatureSeries ← (loadDriveTemperatureSeries numbers.float tables query).mapError .history
  let errorSeries ← (loadDriveErrorSeries numbers.float tables query).mapError .history
  let temperatureKeys ← chartPointKeys temperatureSeries.timestamps temperatureSeries.serialNumbers
    temperatureSeries.pointKeys
  let errorKeys ← chartPointKeys errorSeries.timestamps errorSeries.serialNumbers errorSeries.pointKeys
  let pointKeys := mergeChartPointKeys temperatureKeys errorKeys
  let labels := pointKeys.map fun pointKey => chartTimestampLabel pointKey.timestamp resolvedRangeDays
  let temperatureByKey ← zipStrict temperatureKeys temperatureSeries.averageCelsius
  let mediaErrorsByKey ← zipStrict errorKeys errorSeries.mediaErrors
  let otherErrorsByKey ← zipStrict errorKeys errorSeries.otherErrors
  let predictiveFailuresByKey ← zipStrict errorKeys errorSeries.predictiveFailures
  let temperatureValues := pointKeys.map temperatureByKey.lastValue
  let maxTemperature := (temperatureValues.reduceOption.max?).getD (numbers.float 0)
  let replacementMarkers := chartReplacementMarkers temperatureSeries.toDriveSeries errorSeries.toDriveSeries
    resolvedRangeDays pointKeys
  let temperatureRows ← temperatureFallbackRows numbers temperatureSeries resolvedRangeDays
  let errorRows ← errorFallbackRows errorSeries resolvedRangeDays
  return {
    enclosureId := query.enclosureId
    slotId := query.slotId
    activeRangeDays := resolvedRangeDays
    temperatureChart := temperatureChartData numbers labels temperatureValues settings.tempWarningCelsius
      settings.tempCriticalCelsius maxTemperature replacementMarkers
    errorChart := errorChartData labels (pointKeys.map mediaErrorsByKey.lastValue)
      (pointKeys.map otherErrorsByKey.lastValue) (pointKeys.map predictiveFailuresByKey.lastValue) replacementMarkers
    temperatureRows
    errorRows
    rawPointCount := max temperatureSeries.rawPointCount errorSeries.rawPointCount
    hourlyPointCount := max temperatureSeries.hourlyPointCount errorSeries.hourlyPointCount
    dailyPointCount := max temperatureSeries.dailyPointCount errorSeries.dailyPointCount }

end MegaraidDashboard.Web
