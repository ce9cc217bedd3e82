import MegaraidDashboard.Model.Services.DriveHistory
import Mathlib.Data.List.AList

/-! # The error counters of a drive by day

The sparkline of a drive's page carries the last reading of each day over the days that have none. A `date` is its
number of days since 0001-01-01.
-/

namespace MegaraidDashboard.Services

/-- `datetime.date()` -/
def dateOf (timestamp : ℤ) : ℤ := timestamp / Timestamp.day

/-- `date.max` -/
def dateMax : ℤ := dateOf Timestamp.datetimeMax

/-- `_DailyErrorSnapshot` -/
structure DailyErrorSnapshot where
  day : ℤ
  capturedAt : ℤ
  mediaErrors : ℤ
  otherErrors : ℤ
  bbmErrors : ℤ
  shieldCounter : ℤ
deriving DecidableEq, Repr

def DailyErrorSnapshot.total (snapshot : DailyErrorSnapshot) : ℤ :=
  snapshot.mediaErrors + snapshot.otherErrors + snapshot.bbmErrors + snapshot.shieldCounter

structure ErrorSparklinePoint where
  date : ℤ
  totalCount : ℤ
  incrementalDelta : ℤ
deriving DecidableEq, Repr

structure ErrorSparkline where
  currentTotal : ℤ
  mediaErrors : ℤ
  otherErrors : ℤ
  bbmErrors : ℤ
  shieldCounter : ℤ
  points : List ErrorSparklinePoint
  metaText : String
deriving DecidableEq, Repr

/-- The snapshot that the loop builds from a row; predictive failures stand for the shield counter. -/
def RawRow.daily (row : RawRow) : DailyErrorSnapshot where
  day := dateOf row.reading.capturedAt
  capturedAt := row.reading.capturedAt
  mediaErrors := row.reading.drive.mediaErrors
  otherErrors := row.reading.drive.otherErrors
  bbmErrors := 0
  shieldCounter := row.reading.drive.predictiveFailures

/-- One row of the first loop. -/
def recordDay (latestByDay : AList fun _ : ℤ => DailyErrorSnapshot) (daily : DailyErrorSnapshot) :
    AList fun _ : ℤ => DailyErrorSnapshot :=
  match latestByDay.lookup daily.day with
  | none => latestByDay.insert daily.day daily
  | some previous => if previous.capturedAt ≤ daily.capturedAt then latestByDay.insert daily.day daily else latestByDay

/-- The variables of the second loop. -/
structure SparklineLoop where
  points : List ErrorSparklinePoint
  previousTotal : ℤ
  latest : DailyErrorSnapshot

/-- One day of the second loop. -/
def SparklineLoop.step (startDay : ℤ) (latestByDay : AList fun _ : ℤ => DailyErrorSnapshot) (loop : SparklineLoop)
    (dayOffset : ℕ) : SparklineLoop :=
  let currentDay := startDay + dayOffset
  let latest := (latestByDay.lookup currentDay).getD loop.latest
  let delta := max 0 (latest.total - loop.previousTotal)
  { points := loop.points ++ [⟨currentDay, latest.total, delta⟩], previousTotal := latest.total, latest }

/-- The loop before its first day. -/
def SparklineLoop.start (startDay : ℤ) : SparklineLoop := ⟨[], 0, ⟨startDay, 0, 0, 0, 0, 0⟩⟩

/-- The `where` clauses and the order of the statement. -/
def sparklineRows (rows : List RawRow) (serialNumber : String) (startDay endDay : ℤ) : List RawRow :=
  (rows.filter fun row => row.reading.drive.serialNumber == serialNumber &&
    decide (startDay * Timestamp.day ≤ row.reading.capturedAt) &&
    decide (row.reading.capturedAt < (endDay + 1) * Timestamp.day)).orderBy
      fun row => toLex (row.reading.capturedAt, row.id)

/-- The day of the newest reading of the serial, or the current day. -/
def sparklineEndDay (rows : List RawRow) (serialNumber : String) (todayUtc : ℤ) : ℤ :=
  let latestCapturedAt := ((rows.filter fun row => row.reading.drive.serialNumber == serialNumber).map
    (·.reading.capturedAt)).max?
  (latestCapturedAt.map dateOf).getD todayUtc

/-- `_load_error_sparkline` -/
def loadErrorSparkline (rows : List RawRow) (serialNumber : String) (days todayUtc : ℤ) :
    Except HistoryError ErrorSparkline :=
  if days ≤ 0 then .error (.valueError "days must be positive")
  else
    let endDay := sparklineEndDay rows serialNumber todayUtc
    let startDay := endDay - (days - 1)
    if startDay < 0 ∨ dateMax ≤ endDay then .error .overflowError
    else
      let latestByDay := (sparklineRows rows serialNumber startDay endDay).foldl
        (fun found row => recordDay found row.daily) ∅
      let loop := (List.range days.toNat).foldl (SparklineLoop.step startDay latestByDay) (.start startDay)
      .ok {
        currentTotal := loop.latest.total
        mediaErrors := loop.latest.mediaErrors
        otherErrors := loop.latest.otherErrors
        bbmErrors := loop.latest.bbmErrors
        shieldCounter := loop.latest.shieldCounter
        points := loop.points
        metaText := "Media " ++ toString loop.latest.mediaErrors ++ " / Other " ++ toString loop.latest.otherErrors ++
          " / BBM " ++ toString loop.latest.bbmErrors ++ " / Shield " ++ toString loop.latest.shieldCounter }

end MegaraidDashboard.Services
