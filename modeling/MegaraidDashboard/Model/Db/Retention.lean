import MegaraidDashboard.ToMathlib.ListGrouping
import MegaraidDashboard.Model.Time
import MegaraidDashboard.Model.Db.Models

/-! # Retention of physical-drive measurements

Raw snapshots are aggregated into hourly rows, hourly rows into daily rows, and both sources are
pruned behind their cutoffs. An upsert overwrites the row of its bucket. The averages, which are
floating-point numbers, are left out; minima, maxima and counts are exact.
-/

namespace MegaraidDashboard.Db

/-- The unique constraint of both metrics tables. -/
structure BucketKey where
  bucketStart : ℤ
  drive : DriveKey
deriving DecidableEq, Repr

/-- The measured columns of `pd_metrics_hourly` and `pd_metrics_daily`. -/
structure PhysicalDriveMetrics where
  temperatureMin : Option ℤ
  temperatureMax : Option ℤ
  temperatureSampleCount : ℕ
  mediaErrorsMax : ℤ
  otherErrorsMax : ℤ
  predictiveFailuresMax : ℤ
  sampleCount : ℕ
deriving DecidableEq, Repr

abbrev MetricsTable := AList (fun _ : BucketKey => PhysicalDriveMetrics)

/-- The tables that a retention transaction reads and writes. -/
structure MetricsStore where
  snapshots : List ControllerSnapshot
  hourly : MetricsTable
  daily : MetricsTable

/-- A raw row joined with the `captured_at` of its snapshot. -/
structure Reading where
  capturedAt : ℤ
  drive : PhysicalDriveSnapshot
deriving DecidableEq, Repr

def readings (snapshots : List ControllerSnapshot) : List Reading :=
  snapshots.flatMap fun snapshot => snapshot.physicalDrives.map fun drive => ⟨snapshot.capturedAt, drive⟩

def Reading.hourKey (reading : Reading) : BucketKey :=
  ⟨Timestamp.hourBucket reading.capturedAt, reading.drive.key⟩

def Reading.dayKey (reading : Reading) : BucketKey :=
  ⟨Timestamp.dayBucket reading.capturedAt, reading.drive.key⟩

/-- The day bucket in which an hourly row ends up. -/
def BucketKey.day (key : BucketKey) : BucketKey := ⟨Timestamp.dayBucket key.bucketStart, key.drive⟩

/-- `_RawMetricsAccumulator` -/
structure RawMetricsAccumulator where
  mediaErrorsMax : ℤ := 0
  otherErrorsMax : ℤ := 0
  predictiveFailuresMax : ℤ := 0
  sampleCount : ℕ := 0
  temperatures : List ℤ := []

def RawMetricsAccumulator.add (accumulator : RawMetricsAccumulator) (reading : Reading) :
    RawMetricsAccumulator where
  sampleCount := accumulator.sampleCount + 1
  mediaErrorsMax := max accumulator.mediaErrorsMax reading.drive.mediaErrors
  otherErrorsMax := max accumulator.otherErrorsMax reading.drive.otherErrors
  predictiveFailuresMax := max accumulator.predictiveFailuresMax reading.drive.predictiveFailures
  temperatures := accumulator.temperatures ++ reading.drive.temperatureCelsius.toList

/-- `_HourlyMetricsAccumulator` -/
structure HourlyMetricsAccumulator where
  mediaErrorsMax : ℤ := 0
  otherErrorsMax : ℤ := 0
  predictiveFailuresMax : ℤ := 0
  sampleCount : ℕ := 0
  temperatureSampleCount : ℕ := 0
  temperatureMins : List ℤ := []
  temperatureMaxes : List ℤ := []

def HourlyMetricsAccumulator.add (accumulator : HourlyMetricsAccumulator)
    (metrics : PhysicalDriveMetrics) : HourlyMetricsAccumulator where
  sampleCount := accumulator.sampleCount + metrics.sampleCount
  mediaErrorsMax := max accumulator.mediaErrorsMax metrics.mediaErrorsMax
  otherErrorsMax := max accumulator.otherErrorsMax metrics.otherErrorsMax
  predictiveFailuresMax := max accumulator.predictiveFailuresMax metrics.predictiveFailuresMax
  temperatureMins := accumulator.temperatureMins ++ metrics.temperatureMin.toList
  temperatureMaxes := accumulator.temperatureMaxes ++ metrics.temperatureMax.toList
  temperatureSampleCount := accumulator.temperatureSampleCount + metrics.temperatureSampleCount

/-- The row that `_upsert_hourly` writes. -/
def RawMetricsAccumulator.row (accumulator : RawMetricsAccumulator) : PhysicalDriveMetrics where
  temperatureMin := accumulator.temperatures.min?
  temperatureMax := accumulator.temperatures.max?
  temperatureSampleCount := accumulator.temperatures.length
  mediaErrorsMax := accumulator.mediaErrorsMax
  otherErrorsMax := accumulator.otherErrorsMax
  predictiveFailuresMax := accumulator.predictiveFailuresMax
  sampleCount := accumulator.sampleCount

/-- The row that `_upsert_daily` writes. -/
def HourlyMetricsAccumulator.row (accumulator : HourlyMetricsAccumulator) : PhysicalDriveMetrics where
  temperatureMin := accumulator.temperatureMins.min?
  temperatureMax := accumulator.temperatureMaxes.max?
  temperatureSampleCount := accumulator.temperatureSampleCount
  mediaErrorsMax := accumulator.mediaErrorsMax
  otherErrorsMax := accumulator.otherErrorsMax
  predictiveFailuresMax := accumulator.predictiveFailuresMax
  sampleCount := accumulator.sampleCount

/-- `downsample_to_hourly` behind the window end it computes. -/
def downsampleToHourly (store : MetricsStore) (windowEnd : ℤ) : MetricsStore :=
  let rows := (readings store.snapshots).filter fun reading => decide (reading.capturedAt < windowEnd)
  let buckets := AList.groupFold Reading.hourKey (fun _ => ({} : RawMetricsAccumulator))
    RawMetricsAccumulator.add rows
  { store with hourly := AList.upsertAll RawMetricsAccumulator.row buckets store.hourly }

/-- `downsample_to_daily` behind the window end it computes. -/
def downsampleToDaily (store : MetricsStore) (windowEnd : ℤ) : MetricsStore :=
  let rows := store.hourly.entries.filter fun entry => decide (entry.1.bucketStart < windowEnd)
  let buckets := AList.groupFold (fun entry : Σ _ : BucketKey, PhysicalDriveMetrics => entry.1.day)
    (fun _ => ({} : HourlyMetricsAccumulator)) (fun accumulator entry => accumulator.add entry.2) rows
  { store with daily := AList.upsertAll HourlyMetricsAccumulator.row buckets store.daily }

/-- `prune_raw_snapshots`; the drive rows of a deleted snapshot go with it. -/
def pruneRawSnapshots (store : MetricsStore) (cutoff : ℤ) : MetricsStore :=
  { store with snapshots := store.snapshots.filter fun snapshot => decide (cutoff ≤ snapshot.capturedAt) }

/-- `prune_hourly_metrics` -/
def pruneHourlyMetrics (store : MetricsStore) (cutoff : ℤ) : MetricsStore :=
  { store with hourly := store.hourly.filterKeys fun key => decide (cutoff ≤ key.bucketStart) }

/-- The two retention windows that `Settings` accepts. -/
structure RetentionSettings where
  metricsRawRetentionDays : ℕ
  metricsHourlyRetentionDays : ℕ
  rawPositive : 0 < metricsRawRetentionDays
  hourlyPositive : 0 < metricsHourlyRetentionDays

/-- `_hour_bucket(now - timedelta(days=retention_days))` -/
def RetentionSettings.rawCutoff (settings : RetentionSettings) (now : ℤ) : Option ℤ :=
  (Timestamp.minusDays now settings.metricsRawRetentionDays).map Timestamp.hourBucket

/-- `_day_bucket(now - timedelta(days=retention_days))` -/
def RetentionSettings.hourlyCutoff (settings : RetentionSettings) (now : ℤ) : Option ℤ :=
  (Timestamp.minusDays now settings.metricsHourlyRetentionDays).map Timestamp.dayBucket

/-- `_run_retention_transaction`; an `OverflowError` of a window rolls everything back. -/
def runRetentionTransaction (settings : RetentionSettings) (store : MetricsStore) (now : ℤ) :
    Option MetricsStore := do
  let rawCutoff ← settings.rawCutoff now
  let hourlyCutoff ← settings.hourlyCutoff now
  return pruneHourlyMetrics
    (pruneRawSnapshots
      (downsampleToDaily (downsampleToHourly store rawCutoff) hourlyCutoff) rawCutoff) hourlyCutoff

end MegaraidDashboard.Db
