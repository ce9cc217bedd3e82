import MegaraidDashboard.Model.Services.DriveHistory
import Mathlib.Data.Finset.Card

/-! # A drive's history shows each measurement once

The rows of a window are the rows of the slot between its two ends; the selected serials are all of its serials
when it holds two or more, and the current one otherwise. An aggregate row is left out exactly when a finer layer shows
a point of its bucket, and every point that is shown carries the values of its row.
-/

namespace MegaraidDashboard.Services

open Db

variable {Celsius : Type}

/-- The slot and the window of a query; both ends belong to it. -/
structure HistoryQuery.Window (query : HistoryQuery) (drive : DriveKey) (timestamp : ℤ) : Prop where
  enclosure : drive.enclosureId = query.enclosureId
  slot : drive.slotId = query.slotId
  start : query.now - query.rangeDays * Timestamp.day ≤ timestamp
  stop : timestamp ≤ query.now

/-- A serial of some row in the window, of any layer. -/
def WindowSerial (tables : HistoryTables Celsius) (query : HistoryQuery) (serial : String) : Prop :=
  (∃ row ∈ tables.raw, query.Window row.reading.drive.key row.reading.capturedAt ∧
    row.reading.drive.serialNumber = serial) ∨
  (∃ row ∈ tables.hourly, query.Window row.key.drive row.key.bucketStart ∧ row.key.drive.serialNumber = serial) ∨
  ∃ row ∈ tables.daily, query.Window row.key.drive row.key.bucketStart ∧ row.key.drive.serialNumber = serial

/-- The serials whose rows the series show. -/
def SelectedSerial (tables : HistoryTables Celsius) (query : HistoryQuery) (serial : String) : Prop :=
  (∃ first second, WindowSerial tables query first ∧ WindowSerial tables query second ∧ first ≠ second) ∨
    serial = query.currentSerialNumber

/-- A raw row of the window with a selected serial. -/
structure SelectedRaw (tables : HistoryTables Celsius) (query : HistoryQuery) (row : RawRow) : Prop where
  member : row ∈ tables.raw
  window : query.Window row.reading.drive.key row.reading.capturedAt
  serial : SelectedSerial tables query row.reading.drive.serialNumber

/-- A row of the window in one of the two metrics tables. -/
structure WindowRow (rows : List (MetricsRow Celsius)) (query : HistoryQuery) (row : MetricsRow Celsius) : Prop where
  member : row ∈ rows
  window : query.Window row.key.drive row.key.bucketStart

theorem windowRow_iff {rows : List (MetricsRow Celsius)} {query : HistoryQuery} {row : MetricsRow Celsius} :
    WindowRow rows query row ↔ row ∈ rows ∧ query.Window row.key.drive row.key.bucketStart :=
  ⟨fun ⟨member, window⟩ => ⟨member, window⟩, fun ⟨member, window⟩ => ⟨member, window⟩⟩

/-- A row of the window with a selected serial. -/
structure SelectedRow (tables : HistoryTables Celsius) (rows : List (MetricsRow Celsius)) (query : HistoryQuery)
    (row : MetricsRow Celsius) : Prop extends WindowRow rows query row where
  serial : SelectedSerial tables query row.key.drive.serialNumber

/-- A reading whose hour is the bucket of an hourly row, of its serial. -/
structure RawRow.CoversHour (point : RawRow) (row : MetricsRow Celsius) : Prop where
  hour : Timestamp.hourBucket point.reading.capturedAt = row.key.bucketStart
  serial : point.reading.drive.serialNumber = row.key.drive.serialNumber

structure RawRow.CoversDay (point : RawRow) (row : MetricsRow Celsius) : Prop where
  day : Timestamp.dayBucket point.reading.capturedAt = row.key.bucketStart
  serial : point.reading.drive.serialNumber = row.key.drive.serialNumber

structure MetricsRow.CoversDay (hourly row : MetricsRow Celsius) : Prop where
  day : Timestamp.dayBucket hourly.key.bucketStart = row.key.bucketStart
  serial : hourly.key.drive.serialNumber = row.key.drive.serialNumber

/-- The lists of a series hold the fields of these points, each at its own place. -/
structure DriveSeries.Shows (series : DriveSeries) (points : List (AggregatePoint Celsius)) : Prop where
  timestamps : series.timestamps = points.map (·.timestamp)
  serialNumbers : series.serialNumbers = points.map (·.serialNumber)
  pointKeys : series.pointKeys = points.map (·.pointKey)

structure DriveTemperatureSeries.Shows (float : ℤ → Celsius) (series : DriveTemperatureSeries Celsius)
    (points : List (AggregatePoint Celsius)) : Prop extends series.toDriveSeries.Shows points where
  average : series.averageCelsius.map some = points.map (·.temperatureCelsiusAvg)
  minimum : series.minimumCelsius = points.map fun point => point.temperatureCelsiusMin.map float
  maximum : series.maximumCelsius = points.map fun point => point.temperatureCelsiusMax.map float

structure DriveErrorSeries.Shows (series : DriveErrorSeries) (points : List (AggregatePoint Celsius)) : Prop
    extends series.toDriveSeries.Shows points where
  media : series.mediaErrors = points.map (·.mediaErrorsMax)
  other : series.otherErrors = points.map (·.otherErrorsMax)
  predictive : series.predictiveFailures = points.map (·.predictiveFailuresMax)

/-- The marker between two consecutive points, if their serials differ. -/
def serialChange (previous current : SerialPoint) : Option DriveReplacementMarker :=
  if previous.serialNumber = current.serialNumber then none
  else some ⟨current.timestamp, previous.serialNumber, current.serialNumber⟩

/-- The serial changes between consecutive points. -/
def serialChanges (points : List SerialPoint) : List DriveReplacementMarker :=
  (points.zip points.tail).filterMap fun pair => serialChange pair.1 pair.2

/-- The point of a raw row. -/
def RawRow.shownPoint (float : ℤ → Celsius) (row : RawRow) : AggregatePoint Celsius := row.point.aggregate float

/-- The promise of a series over the rows of its three layers: its points, with their values, and its markers. -/
structure MergesLayers (float : ℤ → Celsius) (raw : RawRow → Prop) (hourly daily : MetricsRow Celsius → Prop)
    (points : List (AggregatePoint Celsius)) (markers : List DriveReplacementMarker) : Prop where
  sorted : points.Pairwise fun first second => first.timestamp ≤ second.timestamp
  raw_shown : ∀ row, raw row → row.shownPoint float ∈ points
  hourly_left_out : ∀ row, hourly row → (row.point .hourly ∉ points ↔
    ∃ finer, raw finer ∧ finer.shownPoint float ∈ points ∧ finer.CoversHour row)
  daily_left_out : ∀ row, daily row → (row.point .daily ∉ points ↔
    (∃ finer, raw finer ∧ finer.shownPoint float ∈ points ∧ finer.CoversDay row) ∨
      ∃ finer, hourly finer ∧ finer.point .hourly ∈ points ∧ finer.CoversDay row)
  only_rows : ∀ point ∈ points, (∃ row, raw row ∧ row.shownPoint float = point) ∨
    (∃ row, hourly row ∧ row.point .hourly = point) ∨ ∃ row, daily row ∧ row.point .daily = point
  once : (points.map (·.pointKey)).Nodup
  markers : markers = serialChanges (points.map AggregatePoint.serialPoint)

section Markers

theorem serialChanges_cons (first second : SerialPoint) (rest : List SerialPoint) :
    serialChanges (first :: second :: rest) =
      (serialChange first second).toList ++ serialChanges (second :: rest) := by
  rw [serialChanges, List.tail_cons, List.zip_cons_cons, List.filterMap_cons]
  cases serialChange first second <;> rfl

/-- The scan remembers the serial of the last point. -/
private theorem foldl_replacementMarkerStep (previous : SerialPoint) (points : List SerialPoint)
    (markers : List DriveReplacementMarker) :
    (points.foldl replacementMarkerStep (some previous.serialNumber, markers)).2 =
      markers ++ serialChanges (previous :: points) := by
  induction points generalizing previous markers with
  | nil => exact (List.append_nil markers).symm
  | cons point rest ih =>
    rw [List.foldl_cons, serialChanges_cons, replacementMarkerStep]
    by_cases same : previous.serialNumber = point.serialNumber
    · have unchanged : serialChange previous point = none := if_pos same
      rw [if_pos same, same, ih point markers, unchanged]
      rfl
    · have changed : serialChange previous point =
          some ⟨point.timestamp, previous.serialNumber, point.serialNumber⟩ := if_neg same
      rw [if_neg same, ih point, changed, List.append_assoc]
      rfl

/-- Over points in their order, the markers are the serial changes. -/
theorem replacementMarkers_eq_serialChanges {points : List SerialPoint}
    (ordered : points.Pairwise fun first second =>
      seriesSortKey first.timestamp first.pointKey ≤ seriesSortKey second.timestamp second.pointKey) :
    replacementMarkers points = serialChanges points := by
  rw [replacementMarkers, List.orderBy_eq_self ordered]
  cases points with
  | nil => rfl
  | cons first rest => exact foldl_replacementMarkerStep first rest []

end Markers

section Loading

theorem HistoryQuery.inWindow_iff {query : HistoryQuery} (positive : 0 < query.rangeDays) {drive : DriveKey}
    {timestamp : ℤ} :
    query.inWindow (query.now - query.rangeDays.toNat * Timestamp.day) drive timestamp = true ↔
      query.Window drive timestamp := by
  have days : (query.rangeDays.toNat : ℤ) = query.rangeDays := Int.toNat_of_nonneg positive.le
  simp only [inWindow, Bool.and_eq_true, decide_eq_true_eq, days]
  constructor
  · rintro ⟨⟨⟨enclosure, slot⟩, start⟩, stop⟩
    exact ⟨enclosure, slot, start, stop⟩
  · rintro ⟨enclosure, slot, start, stop⟩
    exact ⟨⟨⟨enclosure, slot⟩, start⟩, stop⟩

/-- The loaded points of the three layers are the points of these rows, each once. -/
structure SelectedHistoryRows.Holds (raw : RawRow → Prop) (hourly daily : MetricsRow Celsius → Prop)
    (rows : SelectedHistoryRows Celsius) : Prop where
  raw_mem : ∀ point, point ∈ rows.raw ↔ ∃ row, raw row ∧ row.point = point
  hourly_mem : ∀ point, point ∈ rows.hourly ↔ ∃ row, hourly row ∧ row.point .hourly = point
  daily_mem : ∀ point, point ∈ rows.daily ↔ ∃ row, daily row ∧ row.point .daily = point
  raw_keys : (rows.raw.map (·.pointKey)).Nodup
  hourly_keys : (rows.hourly.map (·.pointKey)).Nodup
  daily_keys : (rows.daily.map (·.pointKey)).Nodup

namespace SelectedHistoryRows.Holds

variable {raw : RawRow → Prop} {hourly daily : MetricsRow Celsius → Prop} {rows : SelectedHistoryRows Celsius}

theorem congr {raw' : RawRow → Prop} {hourly' daily' : MetricsRow Celsius → Prop} (holds : rows.Holds raw hourly daily)
    (sameRaw : ∀ row, raw row ↔ raw' row) (sameHourly : ∀ row, hourly row ↔ hourly' row)
    (sameDaily : ∀ row, daily row ↔ daily' row) : rows.Holds raw' hourly' daily' := by
  obtain rfl : raw = raw' := funext fun row => propext (sameRaw row)
  obtain rfl : hourly = hourly' := funext fun row => propext (sameHourly row)
  obtain rfl : daily = daily' := funext fun row => propext (sameDaily row)
  exact holds

/-- A filter on points keeps the rows whose points pass it. -/
theorem filter (holds : rows.Holds raw hourly daily) (keepRaw : RawPoint → Bool) (keep : AggregatePoint Celsius → Bool) :
    SelectedHistoryRows.Holds (fun row => raw row ∧ keepRaw row.point = true)
      (fun row => hourly row ∧ keep (row.point .hourly) = true) (fun row => daily row ∧ keep (row.point .daily) = true)
      ⟨rows.raw.filter keepRaw, rows.hourly.filter keep, rows.daily.filter keep⟩ where
  raw_mem point := by
    rw [List.mem_filter, holds.raw_mem]
    constructor
    · rintro ⟨⟨row, member, rfl⟩, kept⟩
      exact ⟨row, ⟨member, kept⟩, rfl⟩
    · rintro ⟨row, ⟨member, kept⟩, rfl⟩
      exact ⟨⟨row, member, rfl⟩, kept⟩
  hourly_mem point := by
    rw [List.mem_filter, holds.hourly_mem]
    constructor
    · rintro ⟨⟨row, member, rfl⟩, kept⟩
      exact ⟨row, ⟨member, kept⟩, rfl⟩
    · rintro ⟨row, ⟨member, kept⟩, rfl⟩
      exact ⟨⟨row, member, rfl⟩, kept⟩
  daily_mem point := by
    rw [List.mem_filter, holds.daily_mem]
    constructor
    · rintro ⟨⟨row, member, rfl⟩, kept⟩
      exact ⟨row, ⟨member, kept⟩, rfl⟩
    · rintro ⟨row, ⟨member, kept⟩, rfl⟩
      exact ⟨⟨row, member, rfl⟩, kept⟩
  raw_keys := holds.raw_keys.sublist (List.filter_sublist.map _)
  hourly_keys := holds.hourly_keys.sublist (List.filter_sublist.map _)
  daily_keys := holds.daily_keys.sublist (List.filter_sublist.map _)

/-- An order of the layers changes none of their rows. -/
theorem perm (holds : rows.Holds raw hourly daily) {other : SelectedHistoryRows Celsius}
    (samesRaw : other.raw.Perm rows.raw) (sameHourly : other.hourly.Perm rows.hourly)
    (sameDaily : other.daily.Perm rows.daily) : other.Holds raw hourly daily where
  raw_mem point := by rw [samesRaw.mem_iff, holds.raw_mem]
  hourly_mem point := by rw [sameHourly.mem_iff, holds.hourly_mem]
  daily_mem point := by rw [sameDaily.mem_iff, holds.daily_mem]
  raw_keys := (samesRaw.map _).nodup_iff.mpr holds.raw_keys
  hourly_keys := (sameHourly.map _).nodup_iff.mpr holds.hourly_keys
  daily_keys := (sameDaily.map _).nodup_iff.mpr holds.daily_keys

end SelectedHistoryRows.Holds

theorem mem_loadRawPoints {rows : List RawRow} {query : HistoryQuery} {cutoff : ℤ} {point : RawPoint} :
    point ∈ loadRawPoints rows query cutoff ↔ ∃ row, (row ∈ rows ∧
      query.inWindow cutoff row.reading.drive.key row.reading.capturedAt = true) ∧ row.point = point := by
  simp only [loadRawPoints, List.mem_map, List.mem_orderBy, List.mem_filter]

theorem mem_loadAggregatePoints {source : HistorySource} {rows : List (MetricsRow Celsius)} {query : HistoryQuery}
    {cutoff : ℤ} {point : AggregatePoint Celsius} :
    point ∈ loadAggregatePoints source rows query cutoff ↔ ∃ row, (row ∈ rows ∧
      query.inWindow cutoff row.key.drive row.key.bucketStart = true) ∧ row.point source = point := by
  simp only [loadAggregatePoints, List.mem_map, List.mem_orderBy, List.mem_filter]

/-- The keys of points are distinct when the rows have distinct identifiers. -/
private theorem nodup_pointKeys {ρ π : Type} {id : ρ → ℕ} (pointKey : π → DriveHistoryPointKey) (point : ρ → π)
    (source : HistorySource) (names : ∀ row, pointKey (point row) = ⟨source, id row⟩) {rows chosen : List ρ}
    (ids : (rows.map id).Nodup) {keep : ρ → Bool} (perm : chosen.Perm (rows.filter keep)) :
    ((chosen.map point).map pointKey).Nodup := by
  have kept : ((rows.filter keep).map id).Nodup := ids.sublist (List.filter_sublist.map _)
  apply List.Nodup.of_map (·.sourceId)
  have same : (((chosen.map point).map pointKey).map (·.sourceId)) = chosen.map id := by
    rw [List.map_map, List.map_map]
    exact List.map_congr_left fun row _ => congrArg (·.sourceId) (names row)
  rw [same, (perm.map id).nodup_iff]
  exact kept

/-- What the three statements load. -/
theorem holds_load {tables : HistoryTables Celsius} {query : HistoryQuery} (positive : 0 < query.rangeDays) :
    let cutoff := query.now - query.rangeDays.toNat * Timestamp.day
    SelectedHistoryRows.Holds
      (fun row => row ∈ tables.raw ∧ query.Window row.reading.drive.key row.reading.capturedAt)
      (WindowRow tables.hourly query) (WindowRow tables.daily query)
      ⟨loadRawPoints tables.raw query cutoff, loadHourlyPoints tables.hourly query cutoff,
        loadDailyPoints tables.daily query cutoff⟩ where
  raw_mem point := by
    rw [mem_loadRawPoints]
    simp only [HistoryQuery.inWindow_iff positive]
  hourly_mem point := by
    rw [loadHourlyPoints, mem_loadAggregatePoints]
    simp only [HistoryQuery.inWindow_iff positive, windowRow_iff]
  daily_mem point := by
    rw [loadDailyPoints, mem_loadAggregatePoints]
    simp only [HistoryQuery.inWindow_iff positive, windowRow_iff]
  raw_keys := nodup_pointKeys RawPoint.pointKey RawRow.point .raw (fun _ => rfl) tables.rawIds (List.orderBy_perm _ _)
  hourly_keys := nodup_pointKeys AggregatePoint.pointKey (MetricsRow.point .hourly) .hourly (fun _ => rfl) tables.hourlyIds (List.orderBy_perm _ _)
  daily_keys := nodup_pointKeys AggregatePoint.pointKey (MetricsRow.point .daily) .daily (fun _ => rfl) tables.dailyIds (List.orderBy_perm _ _)

/-- The window holds two serials exactly when the code counts more than one. -/
theorem one_lt_serialNumbers_iff {tables : HistoryTables Celsius} {query : HistoryQuery}
    {rows : SelectedHistoryRows Celsius} (holds : rows.Holds
      (fun row => row ∈ tables.raw ∧ query.Window row.reading.drive.key row.reading.capturedAt)
      (WindowRow tables.hourly query) (WindowRow tables.daily query)) :
    1 < rows.serialNumbers.dedup.length ↔
      ∃ first second, WindowSerial tables query first ∧ WindowSerial tables query second ∧ first ≠ second := by
  have serials (serial : String) : serial ∈ rows.serialNumbers ↔ WindowSerial tables query serial := by
    simp only [SelectedHistoryRows.serialNumbers, WindowSerial, List.mem_append, List.mem_map, holds.raw_mem,
      holds.hourly_mem, holds.daily_mem, windowRow_iff, exists_exists_and_eq_and, or_assoc]
    simp only [and_assoc]
    rfl
  rw [← List.card_toFinset, Finset.one_lt_card]
  simp only [List.mem_toFinset, serials]
  constructor
  · rintro ⟨first, firstMember, second, secondMember, differ⟩
    exact ⟨first, second, firstMember, secondMember, differ⟩
  · rintro ⟨first, second, firstMember, secondMember, differ⟩
    exact ⟨first, firstMember, second, secondMember, differ⟩

/-- The chosen rows of the window are those of the selected serials. -/
theorem holds_select {tables : HistoryTables Celsius} {query : HistoryQuery} {rows : SelectedHistoryRows Celsius}
    (holds : rows.Holds (fun row => row ∈ tables.raw ∧ query.Window row.reading.drive.key row.reading.capturedAt)
      (WindowRow tables.hourly query) (WindowRow tables.daily query)) :
    (selectRowsForSerialWindow rows query.currentSerialNumber).Holds (SelectedRaw tables query)
      (SelectedRow tables tables.hourly query) (SelectedRow tables tables.daily query) := by
  have several := one_lt_serialNumbers_iff holds
  rw [selectRowsForSerialWindow]
  split
  · next more =>
    have all (serial : String) : SelectedSerial tables query serial := .inl (several.mp more)
    exact holds.congr (fun row => ⟨fun ⟨member, window⟩ => ⟨member, window, all _⟩, fun row => ⟨row.member, row.window⟩⟩)
      (fun row => ⟨fun window => ⟨window, all _⟩, fun row => row.toWindowRow⟩)
      (fun row => ⟨fun window => ⟨window, all _⟩, fun row => row.toWindowRow⟩)
  · next one =>
    have only {serial : String} : SelectedSerial tables query serial ↔ serial = query.currentSerialNumber :=
      or_iff_right fun more => one (several.mpr more)
    refine (holds.filter _ _).congr (fun row => ?_) (fun row => ?_) (fun row => ?_)
    · rw [beq_iff_eq]
      exact ⟨fun ⟨⟨member, window⟩, same⟩ => ⟨member, window, only.mpr same⟩,
        fun row => ⟨⟨row.member, row.window⟩, only.mp row.serial⟩⟩
    · rw [beq_iff_eq]
      exact ⟨fun ⟨window, same⟩ => ⟨window, only.mpr same⟩, fun row => ⟨row.toWindowRow, only.mp row.serial⟩⟩
    · rw [beq_iff_eq]
      exact ⟨fun ⟨window, same⟩ => ⟨window, only.mpr same⟩, fun row => ⟨row.toWindowRow, only.mp row.serial⟩⟩

end Loading

section Merging

variable {raw : RawRow → Prop} {hourly daily : MetricsRow Celsius → Prop} {rows : SelectedHistoryRows Celsius}

theorem mem_uncovered_hourly {point : AggregatePoint Celsius} :
    point ∈ rows.uncovered.hourly ↔ point ∈ rows.hourly ∧ ¬ ∃ finer ∈ rows.raw,
      Timestamp.hourBucket finer.timestamp = point.timestamp ∧ finer.serialNumber = point.serialNumber := by
  simp only [SelectedHistoryRows.uncovered, List.mem_filter, decide_eq_true_eq, List.mem_map, Prod.mk.injEq]

theorem mem_uncovered_daily {point : AggregatePoint Celsius} :
    point ∈ rows.uncovered.daily ↔ point ∈ rows.daily ∧
      ¬ ((∃ finer ∈ rows.raw, Timestamp.dayBucket finer.timestamp = point.timestamp ∧
          finer.serialNumber = point.serialNumber) ∨
        ∃ finer ∈ rows.uncovered.hourly, Timestamp.dayBucket finer.timestamp = point.timestamp ∧
          finer.serialNumber = point.serialNumber) := by
  rw [not_or, SelectedHistoryRows.uncovered]
  simp only [List.mem_filter, Bool.and_eq_true, decide_eq_true_eq, List.mem_map, Prod.mk.injEq]

/-- A displayed point comes from one of the three layers. -/
theorem mem_points {float : ℤ → Celsius} {points : List (AggregatePoint Celsius)}
    (perm : points.Perm (rows.points float)) {point : AggregatePoint Celsius} :
    point ∈ points ↔ (∃ shown ∈ rows.raw, shown.aggregate float = point) ∨ point ∈ rows.hourly ∨ point ∈ rows.daily := by
  rw [perm.mem_iff, SelectedHistoryRows.points, List.mem_append, List.mem_append, List.mem_map, or_assoc]

/-- The source of a key tells its layer. -/
structure SelectedHistoryRows.Sourced (rows : SelectedHistoryRows Celsius) : Prop where
  raw : ∀ point ∈ rows.raw, point.pointKey.source = .raw
  hourly : ∀ point ∈ rows.hourly, point.pointKey.source = .hourly
  daily : ∀ point ∈ rows.daily, point.pointKey.source = .daily

theorem SelectedHistoryRows.Holds.sourced (holds : rows.Holds raw hourly daily) : rows.Sourced where
  raw point member := by
    obtain ⟨row, -, rfl⟩ := (holds.raw_mem point).mp member
    rfl
  hourly point member := by
    obtain ⟨row, -, rfl⟩ := (holds.hourly_mem point).mp member
    rfl
  daily point member := by
    obtain ⟨row, -, rfl⟩ := (holds.daily_mem point).mp member
    rfl

theorem SelectedHistoryRows.Sourced.uncovered (sourced : rows.Sourced) : rows.uncovered.Sourced where
  raw := sourced.raw
  hourly point member := sourced.hourly point (mem_uncovered_hourly.mp member).1
  daily point member := sourced.daily point (mem_uncovered_daily.mp member).1

section Shown

variable {float : ℤ → Celsius} {points : List (AggregatePoint Celsius)}

theorem shown_raw (perm : points.Perm (rows.uncovered.points float)) {point : RawPoint} (member : point ∈ rows.raw) :
    point.aggregate float ∈ points :=
  (mem_points perm).mpr (.inl ⟨point, member, rfl⟩)

/-- An hourly point is shown exactly when no raw point has its hour and serial. -/
theorem shown_hourly_iff (sourced : rows.Sourced) (perm : points.Perm (rows.uncovered.points float))
    {point : AggregatePoint Celsius} (member : point ∈ rows.hourly) :
    point ∈ points ↔ ¬ ∃ finer ∈ rows.raw,
      Timestamp.hourBucket finer.timestamp = point.timestamp ∧ finer.serialNumber = point.serialNumber := by
  rw [mem_points perm]
  constructor
  · have source := sourced.hourly point member
    rintro (⟨shown, inside, rfl⟩ | inside | inside)
    · have clash : shown.pointKey.source = .hourly := source
      rw [sourced.raw shown inside] at clash
      cases clash
    · exact (mem_uncovered_hourly.mp inside).2
    · rw [sourced.uncovered.daily point inside] at source
      cases source
  · exact fun fresh => .inr (.inl (mem_uncovered_hourly.mpr ⟨member, fresh⟩))

/-- A daily point is shown exactly when neither finer layer has its day and serial. -/
theorem shown_daily_iff (sourced : rows.Sourced) (perm : points.Perm (rows.uncovered.points float))
    {point : AggregatePoint Celsius} (member : point ∈ rows.daily) :
    point ∈ points ↔
      ¬ ((∃ finer ∈ rows.raw, Timestamp.dayBucket finer.timestamp = point.timestamp ∧
          finer.serialNumber = point.serialNumber) ∨
        ∃ finer ∈ rows.uncovered.hourly, Timestamp.dayBucket finer.timestamp = point.timestamp ∧
          finer.serialNumber = point.serialNumber) := by
  rw [mem_points perm]
  constructor
  · have source := sourced.daily point member
    rintro (⟨shown, inside, rfl⟩ | inside | inside)
    · have clash : shown.pointKey.source = .daily := source
      rw [sourced.raw shown inside] at clash
      cases clash
    · rw [sourced.uncovered.hourly point inside] at source
      cases source
    · exact (mem_uncovered_daily.mp inside).2
  · exact fun fresh => .inr (.inr (mem_uncovered_daily.mpr ⟨member, fresh⟩))

end Shown

/-- The keys of the displayed points are distinct: within a layer by identifier, between layers by source. -/
theorem nodup_points (sourced : rows.Sourced) (rawKeys : (rows.raw.map (·.pointKey)).Nodup)
    (hourlyKeys : (rows.hourly.map (·.pointKey)).Nodup) (dailyKeys : (rows.daily.map (·.pointKey)).Nodup)
    (float : ℤ → Celsius) : ((rows.points float).map (·.pointKey)).Nodup := by
  have layers : (rows.points float).map (·.pointKey) =
      rows.raw.map (·.pointKey) ++ rows.hourly.map (·.pointKey) ++ rows.daily.map (·.pointKey) := by
    rw [SelectedHistoryRows.points, List.map_append, List.map_append, List.map_map]
    rfl
  rw [layers]
  refine List.Nodup.append (List.Nodup.append rawKeys hourlyKeys ?_) dailyKeys ?_
  · intro key first second
    obtain ⟨raw, inside, rfl⟩ := List.mem_map.mp first
    obtain ⟨hourly, other, same⟩ := List.mem_map.mp second
    have clash := sourced.hourly hourly other
    rw [same, sourced.raw raw inside] at clash
    cases clash
  · intro key first second
    obtain ⟨daily, inside, rfl⟩ := List.mem_map.mp second
    have source := sourced.daily daily inside
    rcases List.mem_append.mp first with finer | finer
    · obtain ⟨raw, other, same⟩ := List.mem_map.mp finer
      have clash := sourced.raw raw other
      rw [same, source] at clash
      cases clash
    · obtain ⟨hourly, other, same⟩ := List.mem_map.mp finer
      have clash := sourced.hourly hourly other
      rw [same, source] at clash
      cases clash

/-- The ordered points keep the promise over the rows that the layers hold. -/
theorem mergesLayers_of_holds (holds : rows.Holds raw hourly daily) {float : ℤ → Celsius}
    {points : List (AggregatePoint Celsius)} (perm : points.Perm (rows.uncovered.points float))
    (ordered : points.Pairwise fun first second =>
      seriesSortKey first.timestamp first.pointKey ≤ seriesSortKey second.timestamp second.pointKey) :
    MergesLayers float raw hourly daily points (driveSeries points rows.uncovered).replacementMarkers where
  sorted := ordered.imp fun order => (Prod.Lex.toLex_le_toLex.mp order).elim le_of_lt fun same => same.1.le
  raw_shown row selected := shown_raw perm ((holds.raw_mem _).mpr ⟨row, selected, rfl⟩)
  hourly_left_out row selected := by
    rw [shown_hourly_iff holds.sourced perm ((holds.hourly_mem _).mpr ⟨row, selected, rfl⟩), not_not]
    constructor
    · rintro ⟨finer, inside, hour, serial⟩
      obtain ⟨point, chosen, rfl⟩ := (holds.raw_mem finer).mp inside
      exact ⟨point, chosen, shown_raw perm inside, hour, serial⟩
    · rintro ⟨point, chosen, -, covers⟩
      exact ⟨point.point, (holds.raw_mem _).mpr ⟨point, chosen, rfl⟩, covers.hour, covers.serial⟩
  daily_left_out row selected := by
    rw [shown_daily_iff holds.sourced perm ((holds.daily_mem _).mpr ⟨row, selected, rfl⟩), not_not]
    refine or_congr ⟨?_, ?_⟩ ⟨?_, ?_⟩
    · rintro ⟨finer, inside, day, serial⟩
      obtain ⟨point, chosen, rfl⟩ := (holds.raw_mem finer).mp inside
      exact ⟨point, chosen, shown_raw perm inside, day, serial⟩
    · rintro ⟨point, chosen, -, covers⟩
      exact ⟨point.point, (holds.raw_mem _).mpr ⟨point, chosen, rfl⟩, covers.day, covers.serial⟩
    · rintro ⟨finer, inside, day, serial⟩
      obtain ⟨member, fresh⟩ := mem_uncovered_hourly.mp inside
      obtain ⟨other, chosen, rfl⟩ := (holds.hourly_mem finer).mp member
      exact ⟨other, chosen, (shown_hourly_iff holds.sourced perm member).mpr fresh, day, serial⟩
    · rintro ⟨other, chosen, shown, covers⟩
      have member := (holds.hourly_mem _).mpr ⟨other, chosen, rfl⟩
      have fresh := (shown_hourly_iff holds.sourced perm member).mp shown
      exact ⟨_, mem_uncovered_hourly.mpr ⟨member, fresh⟩, covers.day, covers.serial⟩
  only_rows point shown := by
    rw [mem_points perm] at shown
    rcases shown with ⟨shown, inside, rfl⟩ | inside | inside
    · obtain ⟨row, chosen, rfl⟩ := (holds.raw_mem shown).mp inside
      exact .inl ⟨row, chosen, rfl⟩
    · exact .inr (.inl ((holds.hourly_mem point).mp (mem_uncovered_hourly.mp inside).1))
    · exact .inr (.inr ((holds.daily_mem point).mp (mem_uncovered_daily.mp inside).1))
  once := by
    refine ((perm.map (·.pointKey)).nodup_iff).mpr (nodup_points holds.sourced.uncovered holds.raw_keys ?_ ?_ float)
    · exact holds.hourly_keys.sublist (List.filter_sublist.map _)
    · exact holds.daily_keys.sublist (List.filter_sublist.map _)
  markers := replacementMarkers_eq_serialChanges (List.pairwise_map.mpr ordered)

end Merging

section Series

/-- With a positive range that stays in `datetime`, the selected rows are loaded. -/
theorem loadSelectedHistoryRows_ok (tables : HistoryTables Celsius) {query : HistoryQuery}
    (positive : 0 < query.rangeDays) (fits : 0 ≤ query.now - query.rangeDays * Timestamp.day) :
    ∃ selected, loadSelectedHistoryRows tables query = .ok selected ∧
      selected.Holds (SelectedRaw tables query) (SelectedRow tables tables.hourly query)
        (SelectedRow tables tables.daily query) := by
  have days : (query.rangeDays.toNat : ℤ) = query.rangeDays := Int.toNat_of_nonneg positive.le
  have cutoff : Timestamp.minusDays query.now query.rangeDays.toNat =
      some (query.now - query.rangeDays.toNat * Timestamp.day) := if_pos (days.symm ▸ fits)
  rw [loadSelectedHistoryRows, if_neg (not_le.mpr positive), cutoff]
  exact ⟨_, rfl, (holds_select (holds_load positive)).perm (List.orderBy_perm _ _) (List.orderBy_perm _ _)
    (List.orderBy_perm _ _)⟩

theorem loadSelectedHistoryRows_overflow (tables : HistoryTables Celsius) {query : HistoryQuery}
    (positive : 0 < query.rangeDays) (behind : query.now - query.rangeDays * Timestamp.day < 0) :
    loadSelectedHistoryRows tables query = .error .overflowError := by
  have days : (query.rangeDays.toNat : ℤ) = query.rangeDays := Int.toNat_of_nonneg positive.le
  have none : Timestamp.minusDays query.now query.rangeDays.toNat = none :=
    if_neg (days.symm ▸ not_le.mpr behind)
  rw [loadSelectedHistoryRows, if_neg (not_le.mpr positive), none]

/-- No average is missing where every point carries one. -/
theorem mapM_requireFloat {points : List (AggregatePoint Celsius)}
    (carry : ∀ point ∈ points, point.temperatureCelsiusAvg.isSome = true) :
    ∃ averages, (points.mapM fun point => requireFloat point.temperatureCelsiusAvg) = .ok averages ∧
      averages.map some = points.map (·.temperatureCelsiusAvg) := by
  induction points with
  | nil => exact ⟨[], rfl, rfl⟩
  | cons point rest ih =>
    obtain ⟨average, present⟩ := Option.isSome_iff_exists.mp (carry point List.mem_cons_self)
    obtain ⟨averages, found, same⟩ := ih fun other member => carry other (List.mem_cons_of_mem _ member)
    refine ⟨average :: averages, ?_, ?_⟩
    · rw [List.mapM_cons, found, present]
      rfl
    · rw [List.map_cons, List.map_cons, same, present]

/-- The points of the temperature series all carry an average. -/
theorem temperatureRows_points_carry (float : ℤ → Celsius) (selected : SelectedHistoryRows Celsius) :
    ∀ point ∈ (temperatureRows selected).points float, point.temperatureCelsiusAvg.isSome = true := by
  intro point member
  rw [SelectedHistoryRows.points, List.mem_append, List.mem_append, List.mem_map] at member
  rcases member with (⟨raw, inside, rfl⟩ | inside) | inside
  · rw [RawPoint.aggregate, Option.isSome_map]
    exact (List.mem_filter.mp inside).2
  · exact (List.mem_filter.mp (mem_uncovered_hourly.mp inside).1).2
  · exact (List.mem_filter.mp (mem_uncovered_daily.mp inside).1).2

/-- The points of the temperature series in their order. -/
def temperaturePoints (float : ℤ → Celsius) (selected : SelectedHistoryRows Celsius) : List (AggregatePoint Celsius) :=
  ((temperatureRows selected).points float).orderBy fun point => seriesSortKey point.timestamp point.pointKey

def errorPoints (float : ℤ → Celsius) (selected : SelectedHistoryRows Celsius) : List (AggregatePoint Celsius) :=
  ((errorRows selected).points float).orderBy fun point => seriesSortKey point.timestamp point.pointKey

/-- The temperature series of selected rows leaves out no point of them. -/
theorem loadDriveTemperatureSeries_ok (float : ℤ → Celsius) {tables : HistoryTables Celsius} {query : HistoryQuery}
    {selected : SelectedHistoryRows Celsius} (loaded : loadSelectedHistoryRows tables query = .ok selected) :
    ∃ series, loadDriveTemperatureSeries float tables query = .ok series ∧
      series.toDriveSeries = driveSeries (temperaturePoints float selected) (temperatureRows selected) ∧
      series.Shows float (temperaturePoints float selected) := by
  have carry := temperatureRows_points_carry float selected
  have keep : ((temperatureRows selected).points float).filter
      (fun point => point.temperatureCelsiusAvg.isSome) = (temperatureRows selected).points float :=
    List.filter_eq_self.mpr carry
  have ordered : ∀ point ∈ temperaturePoints float selected, point.temperatureCelsiusAvg.isSome = true :=
    fun point member => carry point (List.mem_orderBy.mp member)
  obtain ⟨averages, found, same⟩ := mapM_requireFloat ordered
  rw [temperaturePoints] at found
  rw [loadDriveTemperatureSeries, loaded]
  simp only [bind, Except.bind, keep]
  rw [found]
  exact ⟨_, rfl, rfl, ⟨rfl, rfl, rfl⟩, same, rfl, rfl⟩

theorem loadDriveErrorSeries_ok (float : ℤ → Celsius) {tables : HistoryTables Celsius} {query : HistoryQuery}
    {selected : SelectedHistoryRows Celsius} (loaded : loadSelectedHistoryRows tables query = .ok selected) :
    ∃ series, loadDriveErrorSeries float tables query = .ok series ∧
      series.toDriveSeries = driveSeries (errorPoints float selected) (errorRows selected) ∧
      series.Shows (errorPoints float selected) := by
  rw [loadDriveErrorSeries, loaded]
  exact ⟨_, rfl, rfl, ⟨rfl, rfl, rfl⟩, rfl, rfl, rfl⟩

/-- Both series merge the layers of the selected rows; the temperature series counts the rows with a temperature. -/
theorem drive_history_merges (float : ℤ → Celsius) (tables : HistoryTables Celsius) (query : HistoryQuery)
    (positive : 0 < query.rangeDays) :
    (0 ≤ query.now - query.rangeDays * Timestamp.day →
      (∃ series points, loadDriveTemperatureSeries float tables query = .ok series ∧ series.Shows float points ∧
        MergesLayers float
          (fun row => SelectedRaw tables query row ∧ row.reading.drive.temperatureCelsius.isSome = true)
          (fun row => SelectedRow tables tables.hourly query row ∧ row.temperatureCelsiusAvg.isSome = true)
          (fun row => SelectedRow tables tables.daily query row ∧ row.temperatureCelsiusAvg.isSome = true)
          points series.replacementMarkers) ∧
      ∃ series points, loadDriveErrorSeries float tables query = .ok series ∧ series.Shows points ∧
        MergesLayers float (SelectedRaw tables query) (SelectedRow tables tables.hourly query)
          (SelectedRow tables tables.daily query) points series.replacementMarkers) ∧
    (query.now - query.rangeDays * Timestamp.day < 0 →
      loadDriveTemperatureSeries float tables query = .error .overflowError ∧
        loadDriveErrorSeries float tables query = .error .overflowError) := by
  constructor
  · intro fits
    obtain ⟨selected, loaded, holds⟩ := loadSelectedHistoryRows_ok tables positive fits
    constructor
    · obtain ⟨series, success, fields, shows⟩ := loadDriveTemperatureSeries_ok float loaded
      refine ⟨series, _, success, shows, ?_⟩
      have carrying := holds.filter (fun raw => raw.temperatureCelsius.isSome)
        fun point => point.temperatureCelsiusAvg.isSome
      rw [fields]
      exact mergesLayers_of_holds carrying (List.orderBy_perm _ _) (List.pairwise_orderBy _ _)
    · obtain ⟨series, success, fields, shows⟩ := loadDriveErrorSeries_ok float loaded
      refine ⟨series, _, success, shows, ?_⟩
      rw [fields]
      exact mergesLayers_of_holds holds (List.orderBy_perm _ _) (List.pairwise_orderBy _ _)
  · intro behind
    have failed := loadSelectedHistoryRows_overflow tables positive behind
    rw [loadDriveTemperatureSeries, loadDriveErrorSeries, failed]
    exact ⟨rfl, rfl⟩

private def historyKey (start : ℤ) (serial : String) : BucketKey := ⟨start, 252, 4, serial⟩

private def calmMetrics : PhysicalDriveMetrics := ⟨some 30, some 34, 12, 0, 0, 0, 12⟩

private def historyReading (capturedAt : ℤ) (serial : String) : Reading :=
  ⟨capturedAt, 252, 4, 9, serial, "Onln", some 0, some 31, 0, 0, 0, false⟩

/-- Two serials in one slot: a reading of the new one in an hour that the old one has a row for, and a daily row
of the same day. -/
private def replacedTables : HistoryTables ℤ where
  raw := [⟨7, historyReading (20 * Timestamp.day + 10 * Timestamp.hour + 5) "NEW"⟩]
  hourly := [⟨3, historyKey (20 * Timestamp.day + 10 * Timestamp.hour) "OLD", calmMetrics, some 32⟩]
  daily := [⟨2, historyKey (20 * Timestamp.day) "OLD", calmMetrics, some 32⟩]
  rawIds := by decide
  hourlyIds := by decide
  dailyIds := by decide

private def monthQuery : HistoryQuery := ⟨252, 4, "NEW", 30, 40 * Timestamp.day⟩

theorem drive_history_merges_replaced :
    (∃ series points, loadDriveTemperatureSeries id replacedTables monthQuery = .ok series ∧ series.Shows id points ∧
      MergesLayers id
        (fun row => SelectedRaw replacedTables monthQuery row ∧ row.reading.drive.temperatureCelsius.isSome = true)
        (fun row => SelectedRow replacedTables replacedTables.hourly monthQuery row ∧
          row.temperatureCelsiusAvg.isSome = true)
        (fun row => SelectedRow replacedTables replacedTables.daily monthQuery row ∧
          row.temperatureCelsiusAvg.isSome = true) points series.replacementMarkers) ∧
    ∃ series points, loadDriveErrorSeries id replacedTables monthQuery = .ok series ∧ series.Shows points ∧
      MergesLayers id (SelectedRaw replacedTables monthQuery)
        (SelectedRow replacedTables replacedTables.hourly monthQuery)
        (SelectedRow replacedTables replacedTables.daily monthQuery) points series.replacementMarkers :=
  (drive_history_merges id replacedTables monthQuery (by decide)).1 (by decide)

/-- Only rows of a former drive: the new one has no reading yet. -/
private def formerTables : HistoryTables ℤ where
  raw := []
  hourly := [⟨3, historyKey (20 * Timestamp.day + 10 * Timestamp.hour) "OLD", calmMetrics, some 32⟩]
  daily := []
  rawIds := by decide
  hourlyIds := by decide
  dailyIds := by decide

/-- Rows of a serial that is not selected are left out, and no finer layer covers them. -/
theorem not_drive_history_merges :
    ¬ ∀ (tables : HistoryTables ℤ) (query : HistoryQuery), 0 < query.rangeDays →
      0 ≤ query.now - query.rangeDays * Timestamp.day →
      ∃ series points, loadDriveErrorSeries id tables query = .ok series ∧ series.Shows points ∧
        MergesLayers id (SelectedRaw tables query) (WindowRow tables.hourly query) (WindowRow tables.daily query)
          points series.replacementMarkers := by
  intro claim
  obtain ⟨series, points, success, shows, merges⟩ := claim formerTables monthQuery (by decide) (by decide)
  obtain rfl : series = ⟨⟨[], [], [], [], 0, 0, 0⟩, [], [], []⟩ := (Except.ok.inj success).symm
  have empty : points = [] := List.map_eq_nil_iff.mp shows.timestamps.symm
  have window : WindowRow formerTables.hourly monthQuery
      ⟨3, historyKey (20 * Timestamp.day + 10 * Timestamp.hour) "OLD", calmMetrics, some 32⟩ :=
    ⟨List.mem_cons_self, by decide, by decide, by decide, by decide⟩
  rw [empty] at merges
  obtain ⟨point, selected, -, -⟩ := (merges.hourly_left_out _ window).mp List.not_mem_nil
  cases selected.member

end Series

end MegaraidDashboard.Services
