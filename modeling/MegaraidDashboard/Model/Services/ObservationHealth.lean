import MegaraidDashboard.Model.Python.DateTime
import MegaraidDashboard.Model.Services.TelegramRelevance

/-! # The observation banner

What every page says above its content when the newest snapshot cannot be relied on.
-/

namespace MegaraidDashboard.Services

open Db Timestamp

/-- `captured.strftime("%Y-%m-%d %H:%M UTC")` -/
def observationLabel (captured : ℤ) : String :=
  let date := Py.ord2ymd ((captured / day).toNat + 1)
  let seconds := (captured % day / second).toNat
  String.ofList (Py.zeroPadded 4 date.year ++ '-' :: Py.zeroPadded 2 date.month ++ '-' :: Py.zeroPadded 2 date.day ++
    ' ' :: Py.zeroPadded 2 (seconds / 3600) ++ ':' :: Py.zeroPadded 2 (seconds / 60 % 60) ++ " UTC".toList)

def noObservationText : String := "No reliable collection yet. RAID state is unknown."

def staleObservationText (captured : ℤ) : String :=
  "Monitoring data is stale. RAID state is unknown. Last observation: " ++ observationLabel captured ++ "."

def failedObservationText (captured : ℤ) : String :=
  "Collection failed. Showing last known data from " ++ observationLabel captured ++ "."

/-- `observation_warning`, with the setting `collector_enabled`; no value is an `OverflowError`. -/
def observationWarning (collectorEnabled : Bool) (settings : Settings) (db : Database) (now : ℤ) :
    Option (Option String) :=
  if !collectorEnabled then some none
  else match snapshotAt db now with
    | none => some (some noObservationText)
    | some snapshot =>
      let captured := snapshot.capturedAt
      (minus now (freshness settings)).map fun oldest =>
        if captured < oldest then some (staleObservationText captured)
        else
          let failure := db.events.any fun event => event.category == .system &&
            summaryStartsWith event collectionFailedPrefix && decide (captured ≤ event.occurredAt) &&
            decide (event.occurredAt ≤ now)
          if failure then some (failedObservationText captured) else none

end MegaraidDashboard.Services
