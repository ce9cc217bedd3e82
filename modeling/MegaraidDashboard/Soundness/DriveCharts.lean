import MegaraidDashboard.ToMathlib.Reorderings
import MegaraidDashboard.Model.Web.DriveCharts
import MegaraidDashboard.Soundness.DriveHistory

/-! # The charts show both series on one axis

The series leave out different rows: a reading without a temperature hides the aggregates of its hour and of its day
from the error series only. The axis holds each point of either series once.
-/

namespace MegaraidDashboard.Web

open Services Db

variable {Celsius β : Type}

section Statement

/-- The points of a series as points of the axis. -/
def axisPoints (series : DriveSeries) : List ChartPointKey :=
  (series.timestamps.zip (series.serialNumbers.zip series.pointKeys)).map fun entry => ⟨entry.1, entry.2.1, entry.2.2⟩

/-- The data hold each value at the place of its own point, and nothing elsewhere. -/
structure Plots (axis points : List ChartPointKey) (values : List β) (data : List (Option β)) : Prop where
  length : data.length = axis.length
  exact : ∀ (place : ℕ) (value : β), data[place]? = some (some value) ↔
    ∃ (i : ℕ) (point : ChartPointKey), points[i]? = some point ∧ values[i]? = some value ∧ axis[place]? = some point

/-- The mark of a replacement, at the first point of the axis with its time and its new serial. -/
structure Marks (rangeDays : ℤ) (axis : List ChartPointKey) (marker : DriveReplacementMarker)
    (mark : ChartReplacementMarker) : Prop where
  point : ∃ point : ChartPointKey, axis[mark.pointIndex]? = some point ∧ point.timestamp = marker.timestamp ∧
    point.serialNumber = marker.currentSerialNumber
  first : ∀ place < mark.pointIndex, ∀ point : ChartPointKey, axis[place]? = some point →
    point.timestamp = marker.timestamp → point.serialNumber ≠ marker.currentSerialNumber
  timestamp : mark.timestamp = chartTimestampLabel marker.timestamp rangeDays
  label : mark.label = "Drive replaced"
  previous : mark.previousSerialNumber = marker.previousSerialNumber
  current : mark.currentSerialNumber = marker.currentSerialNumber

/-- A replacement that one of the series shows. -/
def Replacement (temperature error : DriveSeries) (marker : DriveReplacementMarker) : Prop :=
  marker ∈ temperature.replacementMarkers ∨ marker ∈ error.replacementMarkers

/-- What the view shows of the two series. -/
structure DrawsSeries (temperature : DriveTemperatureSeries Celsius) (error : DriveErrorSeries) (rangeDays : ℤ)
    (axis : List ChartPointKey) (view : DriveChartsViewModel Celsius) : Prop where
  points : ∀ point, point ∈ axis ↔ point ∈ axisPoints temperature.toDriveSeries ∨ point ∈ axisPoints error.toDriveSeries
  once : axis.Nodup
  chronological : axis.Pairwise fun first second => first.timestamp ≤ second.timestamp
  error_order : (axisPoints error.toDriveSeries).Sublist axis
  temperature_labels : view.temperatureChart.labels = axis.map fun point => chartTimestampLabel point.timestamp rangeDays
  error_labels : view.errorChart.labels = view.temperatureChart.labels
  average : Plots axis (axisPoints temperature.toDriveSeries) temperature.averageCelsius
    view.temperatureChart.averageTemperature
  media : Plots axis (axisPoints error.toDriveSeries) error.mediaErrors view.errorChart.mediaErrors
  other : Plots axis (axisPoints error.toDriveSeries) error.otherErrors view.errorChart.otherErrors
  predictive : Plots axis (axisPoints error.toDriveSeries) error.predictiveFailures view.errorChart.predictiveFailures
  every_replacement : ∀ marker, Replacement temperature.toDriveSeries error.toDriveSeries marker →
    ∃! mark, mark ∈ view.temperatureChart.replacementMarkers ∧ Marks rangeDays axis marker mark
  only_replacements : ∀ mark ∈ view.temperatureChart.replacementMarkers,
    ∃ marker, Replacement temperature.toDriveSeries error.toDriveSeries marker ∧ Marks rangeDays axis marker mark
  marked_once : view.temperatureChart.replacementMarkers.Nodup
  same_marks : view.errorChart.replacementMarkers = view.temperatureChart.replacementMarkers

end Statement

section Series

/-- What the charts need of a series. -/
structure Chartable (series : DriveSeries) : Prop where
  serials : series.serialNumbers.length = series.timestamps.length
  keys : series.pointKeys.length = series.timestamps.length
  sorted : series.timestamps.Pairwise (· ≤ ·)
  once : series.pointKeys.Nodup
  replaced : ∀ marker ∈ series.replacementMarkers, ∃ point ∈ axisPoints series,
    point.timestamp = marker.timestamp ∧ point.serialNumber = marker.currentSerialNumber

theorem mem_serialChanges {points : List SerialPoint} {marker : DriveReplacementMarker}
    (member : marker ∈ serialChanges points) :
    ∃ point ∈ points, point.timestamp = marker.timestamp ∧ point.serialNumber = marker.currentSerialNumber := by
  obtain ⟨⟨previous, current⟩, pair, changed⟩ := List.mem_filterMap.mp member
  rw [serialChange] at changed
  split at changed
  · cases changed
  · obtain rfl := Option.some.inj changed
    exact ⟨current, List.mem_of_mem_tail (List.of_mem_zip pair).2, rfl, rfl⟩

theorem axisPoints_driveSeries (points : List (AggregatePoint Celsius)) (rows : SelectedHistoryRows Celsius) :
    axisPoints (driveSeries points rows) =
      points.map fun point => ⟨point.timestamp, point.serialNumber, point.pointKey⟩ := by
  rw [axisPoints, driveSeries, List.zip_map', List.zip_map', List.map_map]
  rfl

theorem chartable_of_mergesLayers {float : ℤ → Celsius} {raw : RawRow → Prop} {hourly daily : MetricsRow Celsius → Prop}
    {points : List (AggregatePoint Celsius)} {rows : SelectedHistoryRows Celsius}
    (merges : MergesLayers float raw hourly daily points (driveSeries points rows).replacementMarkers) :
    Chartable (driveSeries points rows) where
  serials := by simp [driveSeries]
  keys := by simp [driveSeries]
  sorted := List.pairwise_map.mpr merges.sorted
  once := merges.once
  replaced marker member := by
    rw [merges.markers] at member
    obtain ⟨shown, inside, time, serial⟩ := mem_serialChanges member
    obtain ⟨point, displayed, rfl⟩ := List.mem_map.mp inside
    rw [axisPoints_driveSeries]
    exact ⟨_, List.mem_map_of_mem displayed, time, serial⟩

theorem zipStrict_ok {α γ : Type} {first : List α} {second : List γ} (lengths : first.length = second.length) :
    zipStrict first second = .ok (first.zip second) := if_pos lengths

namespace Chartable

variable {series : DriveSeries} (chartable : Chartable series)
include chartable

theorem chartPointKeys_ok :
    chartPointKeys series.timestamps series.serialNumbers series.pointKeys = .ok (axisPoints series) := by
  have inner : series.serialNumbers.length = series.pointKeys.length := chartable.serials.trans chartable.keys.symm
  have outer : series.timestamps.length = (series.serialNumbers.zip series.pointKeys).length := by
    rw [List.length_zip, ← inner, min_self, chartable.serials]
  rw [chartPointKeys, zipStrict_ok inner, axisPoints]
  simp only [bind, Except.bind]
  rw [zipStrict_ok outer]
  rfl

theorem length_axisPoints : (axisPoints series).length = series.timestamps.length := by
  rw [axisPoints, List.length_map, List.length_zip, List.length_zip, chartable.serials, chartable.keys,
    min_self, min_self]

theorem map_timestamp : (axisPoints series).map ChartPointKey.timestamp = series.timestamps := by
  have heads : (series.timestamps.zip (series.serialNumbers.zip series.pointKeys)).map Prod.fst = series.timestamps := by
    refine List.map_fst_zip ?_
    rw [List.length_zip, chartable.serials, chartable.keys, min_self]
  rw [axisPoints, List.map_map]
  exact heads

theorem map_historyPointKey : (axisPoints series).map ChartPointKey.historyPointKey = series.pointKeys := by
  have inner : (series.serialNumbers.zip series.pointKeys).map Prod.snd = series.pointKeys :=
    List.map_snd_zip (by rw [chartable.serials, chartable.keys])
  have outer : (series.timestamps.zip (series.serialNumbers.zip series.pointKeys)).map Prod.snd =
      series.serialNumbers.zip series.pointKeys := by
    refine List.map_snd_zip ?_
    rw [List.length_zip, chartable.serials, chartable.keys, min_self]
  calc
    (axisPoints series).map ChartPointKey.historyPointKey =
        ((series.timestamps.zip (series.serialNumbers.zip series.pointKeys)).map Prod.snd).map Prod.snd := by
      rw [axisPoints, List.map_map, List.map_map]
      rfl
    _ = series.pointKeys := by rw [outer, inner]

theorem nodup_axisPoints : (axisPoints series).Nodup :=
  List.Nodup.of_map ChartPointKey.historyPointKey (chartable.map_historyPointKey.symm ▸ chartable.once)

theorem sorted_axisPoints : (axisPoints series).Pairwise fun first second => first.timestamp ≤ second.timestamp :=
  List.pairwise_map.mp (chartable.map_timestamp.symm ▸ chartable.sorted)

end Chartable

/-- Every list of a temperature series has its length. -/
structure TemperatureLengths (series : DriveTemperatureSeries Celsius) : Prop where
  average : series.averageCelsius.length = series.timestamps.length
  minimum : series.minimumCelsius.length = series.timestamps.length
  maximum : series.maximumCelsius.length = series.timestamps.length

structure ErrorLengths (series : DriveErrorSeries) : Prop where
  media : series.mediaErrors.length = series.timestamps.length
  other : series.otherErrors.length = series.timestamps.length
  predictive : series.predictiveFailures.length = series.timestamps.length

theorem temperatureLengths {float : ℤ → Celsius} {tables : HistoryTables Celsius} {query : HistoryQuery}
    {series : DriveTemperatureSeries Celsius} (loaded : loadDriveTemperatureSeries float tables query = .ok series) :
    TemperatureLengths series := by
  obtain ⟨selected, -, rest⟩ := Except.bind_eq_ok loaded
  obtain ⟨averages, found, rest⟩ := Except.bind_eq_ok rest
  obtain rfl := Except.ok.inj rest
  constructor
  · exact (List.length_of_mapM_ok found).trans (List.length_map _).symm
  · exact (List.length_map _).trans (List.length_map _).symm
  · exact (List.length_map _).trans (List.length_map _).symm

theorem errorLengths {float : ℤ → Celsius} {tables : HistoryTables Celsius} {query : HistoryQuery}
    {series : DriveErrorSeries} (loaded : loadDriveErrorSeries float tables query = .ok series) : ErrorLengths series := by
  obtain ⟨selected, -, rest⟩ := Except.bind_eq_ok loaded
  obtain rfl := Except.ok.inj rest
  constructor <;> exact (List.length_map _).trans (List.length_map _).symm

/-- In a window that stays in `datetime`, both series load, ready for the charts. -/
theorem chartable_series (float : ℤ → Celsius) (tables : HistoryTables Celsius) {query : HistoryQuery}
    (positive : 0 < query.rangeDays) (fits : 0 ≤ query.now - query.rangeDays * Timestamp.day) :
    ∃ temperature error, loadDriveTemperatureSeries float tables query = .ok temperature ∧
      loadDriveErrorSeries float tables query = .ok error ∧ Chartable temperature.toDriveSeries ∧
      Chartable error.toDriveSeries := by
  obtain ⟨selected, loaded, holds⟩ := loadSelectedHistoryRows_ok tables positive fits
  obtain ⟨temperature, loadedTemperature, temperatureFields, -⟩ := loadDriveTemperatureSeries_ok float loaded
  obtain ⟨error, loadedError, errorFields, -⟩ := loadDriveErrorSeries_ok float loaded
  have carrying := holds.filter (fun raw => raw.temperatureCelsius.isSome) fun point => point.temperatureCelsiusAvg.isSome
  refine ⟨temperature, error, loadedTemperature, loadedError, ?_, ?_⟩
  · rw [temperatureFields]
    exact chartable_of_mergesLayers
      (mergesLayers_of_holds carrying (List.orderBy_perm _ _) (List.pairwise_orderBy _ _))
  · rw [errorFields]
    exact chartable_of_mergesLayers (mergesLayers_of_holds holds (List.orderBy_perm _ _) (List.pairwise_orderBy _ _))

end Series

section Axis

variable {temperatureKeys errorKeys : List ChartPointKey}

theorem map_fst_orderByKey (keys : List ChartPointKey) : (keys.firstIndices id).map Prod.fst = keys.firstOccurrences := by
  rw [List.map_fst_firstIndices, List.map_id]

theorem mem_mergeChartPointKeys {point : ChartPointKey} :
    point ∈ mergeChartPointKeys temperatureKeys errorKeys ↔ point ∈ temperatureKeys ∨ point ∈ errorKeys := by
  rw [mergeChartPointKeys, List.mem_orderBy, map_fst_orderByKey, List.mem_firstOccurrences, List.mem_append, or_comm]

theorem nodup_mergeChartPointKeys : (mergeChartPointKeys temperatureKeys errorKeys).Nodup := by
  rw [mergeChartPointKeys, (List.orderBy_perm _ _).nodup_iff, map_fst_orderByKey]
  exact List.nodup_firstOccurrences _

theorem sorted_mergeChartPointKeys : (mergeChartPointKeys temperatureKeys errorKeys).Pairwise fun first second =>
    first.timestamp ≤ second.timestamp := by
  rw [mergeChartPointKeys]
  refine (List.pairwise_orderBy _ _).imp fun order => ?_
  exact (Prod.Lex.toLex_le_toLex.mp order).elim le_of_lt fun same => same.1.le

/-- The error series keeps its order: at one time, its points come first and in its own order. -/
theorem sublist_mergeChartPointKeys (distinct : errorKeys.Nodup)
    (sorted : errorKeys.Pairwise fun first second => first.timestamp ≤ second.timestamp) :
    errorKeys.Sublist (mergeChartPointKeys temperatureKeys errorKeys) := by
  rw [mergeChartPointKeys, map_fst_orderByKey]
  refine List.sublist_orderBy ?_ (List.nodup_firstOccurrences _) ?_
  · intro point member
    exact List.mem_firstOccurrences.mpr (List.mem_append_left _ member)
  · have place {i : ℕ} (inside : i < errorKeys.length) :
        (((errorKeys ++ temperatureKeys).firstIndices id).lookup errorKeys[i]).getD 0 = i := by
      rw [List.lookup_firstIndices, List.map_id, List.idxOf?_append_getElem distinct, Option.getD_some]
    refine List.pairwise_iff_getElem.mpr fun i j first second before => ?_
    rw [place first, place second]
    refine Prod.Lex.toLex_lt_toLex.mpr ?_
    rcases (List.pairwise_iff_getElem.mp sorted i j first second before).lt_or_eq with less | same
    · exact .inl less
    · exact .inr ⟨same, before⟩

theorem plots {axis points : List ChartPointKey} {values : List β} (lengths : points.length = values.length)
    (distinct : points.Nodup) : Plots axis points values (axis.map (points.zip values).lastValue) where
  length := List.length_map _
  exact place value := by
    have keys : ((points.zip values).map Prod.fst).Nodup := by
      rw [List.map_fst_zip lengths.le]
      exact distinct
    rw [List.getElem?_map, Option.map_eq_some_iff]
    constructor
    · rintro ⟨point, at_, found⟩
      obtain ⟨i, pair⟩ := List.mem_iff_getElem?.mp ((List.lastValue_eq_some_iff keys).mp found)
      obtain ⟨left, right⟩ := List.getElem?_zip_eq_some.mp pair
      exact ⟨i, point, left, right, at_⟩
    · rintro ⟨i, point, left, right, at_⟩
      refine ⟨point, at_, (List.lastValue_eq_some_iff keys).mpr ?_⟩
      exact List.mem_of_getElem? (List.getElem?_zip_eq_some.mpr ⟨left, right⟩)

end Axis

section Markers

variable {temperature error : DriveSeries} {rangeDays : ℤ} {axis : List ChartPointKey}

theorem mem_uniqueReplacementMarkers {marker : DriveReplacementMarker} :
    marker ∈ uniqueReplacementMarkers temperature error ↔ Replacement temperature error marker := by
  rw [uniqueReplacementMarkers, List.mem_firstOccurrences, List.mem_append, Replacement]

/-- The index of a time and a serial is that of the first point that has both. -/
theorem marks_of_lookup {marker : DriveReplacementMarker} {pointIndex : ℕ}
    (found : (axis.firstIndices fun point => (point.timestamp, point.serialNumber)).lookup
      (marker.timestamp, marker.currentSerialNumber) = some pointIndex) :
    Marks rangeDays axis marker (chartReplacementMarker rangeDays marker pointIndex) := by
  rw [List.lookup_firstIndices, List.idxOf?_eq_some_iff] at found
  obtain ⟨inside, here, earlier⟩ := found
  rw [List.length_map] at inside
  rw [List.getElem_map, Prod.mk.injEq] at here
  refine ⟨⟨axis[pointIndex], List.getElem?_eq_getElem inside, here⟩, ?_, rfl, rfl, rfl, rfl⟩
  intro place before point at_ time serial
  obtain ⟨bound, rfl⟩ := List.getElem?_eq_some_iff.mp at_
  refine earlier place before ?_
  rw [List.getElem_map, time, serial]

theorem exists_mark {marker : DriveReplacementMarker} (replacement : Replacement temperature error marker)
    {point : ChartPointKey} (member : point ∈ axis) (time : point.timestamp = marker.timestamp)
    (serial : point.serialNumber = marker.currentSerialNumber) :
    ∃ mark ∈ chartReplacementMarkers temperature error rangeDays axis, Marks rangeDays axis marker mark := by
  have present : (marker.timestamp, marker.currentSerialNumber) ∈
      axis.map fun point => (point.timestamp, point.serialNumber) := by
    rw [← time, ← serial]
    exact List.mem_map_of_mem member
  obtain ⟨pointIndex, found⟩ := Option.isSome_iff_exists.mp (List.isSome_idxOf?.mpr present)
  rw [← List.lookup_firstIndices] at found
  refine ⟨chartReplacementMarker rangeDays marker pointIndex, List.mem_filterMap.mpr ⟨marker, ?_, ?_⟩, marks_of_lookup found⟩
  · exact mem_uniqueReplacementMarkers.mpr replacement
  · rw [found, Option.map_some]

theorem replacement_of_mem {mark : ChartReplacementMarker}
    (member : mark ∈ chartReplacementMarkers temperature error rangeDays axis) :
    ∃ marker, Replacement temperature error marker ∧ Marks rangeDays axis marker mark := by
  obtain ⟨marker, unique, drawn⟩ := List.mem_filterMap.mp member
  obtain ⟨pointIndex, found, rfl⟩ := Option.map_eq_some_iff.mp drawn
  exact ⟨marker, mem_uniqueReplacementMarkers.mp unique, marks_of_lookup found⟩

/-- The point of a mark and its two serials tell its replacement. -/
theorem Marks.unique {first second : DriveReplacementMarker} {mark : ChartReplacementMarker}
    (one : Marks rangeDays axis first mark) (two : Marks rangeDays axis second mark) : first = second := by
  obtain ⟨point, at_, firstTime, firstSerial⟩ := one.point
  obtain ⟨other, again, secondTime, secondSerial⟩ := two.point
  obtain rfl : point = other := Option.some.inj (at_.symm.trans again)
  have previous := one.previous.symm.trans two.previous
  cases first
  cases second
  simp_all

/-- A replacement has one mark. -/
theorem Marks.eq {marker : DriveReplacementMarker} {mark other : ChartReplacementMarker}
    (one : Marks rangeDays axis marker mark) (two : Marks rangeDays axis marker other) : mark = other := by
  obtain ⟨point, here, time, serial⟩ := one.point
  obtain ⟨otherPoint, there, otherTime, otherSerial⟩ := two.point
  have index : mark.pointIndex = other.pointIndex := by
    rcases lt_trichotomy mark.pointIndex other.pointIndex with before | same | after
    · exact absurd serial (two.first _ before point here time)
    · exact same
    · exact absurd otherSerial (one.first _ after otherPoint there otherTime)
  have timestamp := one.timestamp.trans two.timestamp.symm
  have label := one.label.trans two.label.symm
  have previous := one.previous.trans two.previous.symm
  have current := one.current.trans two.current.symm
  cases mark
  cases other
  simp_all only

theorem nodup_chartReplacementMarkers : (chartReplacementMarkers temperature error rangeDays axis).Nodup := by
  refine List.Nodup.filterMap ?_ (List.nodup_firstOccurrences _)
  intro first second mark one two
  obtain ⟨_, found, rfl⟩ := Option.map_eq_some_iff.mp (Option.mem_def.mp one)
  obtain ⟨_, again, same⟩ := Option.map_eq_some_iff.mp (Option.mem_def.mp two)
  have marksSecond : Marks rangeDays axis second (chartReplacementMarker rangeDays second _) := marks_of_lookup again
  rw [same] at marksSecond
  exact (marks_of_lookup found).unique marksSecond

end Markers

section View

/-- Four columns of one length are read side by side. -/
theorem zipStrict_columns {α γ δ ε : Type} {first : List α} {second : List γ} {third : List δ} {fourth : List ε}
    (two : second.length = first.length) (three : third.length = first.length) (four : fourth.length = first.length) :
    ∃ tail middle whole, zipStrict third fourth = .ok tail ∧ zipStrict second tail = .ok middle ∧
      zipStrict first middle = .ok whole := by
  have tail : (third.zip fourth).length = first.length := by rw [List.length_zip, three, four, min_self]
  have middle : (second.zip (third.zip fourth)).length = first.length := by
    rw [List.length_zip, two, tail, min_self]
  exact ⟨_, _, _, zipStrict_ok (three.trans four.symm), zipStrict_ok (two.trans tail.symm), zipStrict_ok middle.symm⟩

theorem temperatureFallbackRows_ok (numbers : ChartNumbers Celsius) {series : DriveTemperatureSeries Celsius}
    (lengths : TemperatureLengths series) (rangeDays : ℤ) :
    ∃ rows, temperatureFallbackRows numbers series rangeDays = .ok rows := by
  obtain ⟨limits, values, entries, zippedLimits, zippedValues, zippedEntries⟩ :=
    zipStrict_columns lengths.average lengths.minimum lengths.maximum
  rw [temperatureFallbackRows]
  simp only [bind, Except.bind, zippedLimits, zippedValues, zippedEntries]
  exact ⟨_, rfl⟩

theorem errorFallbackRows_ok {series : DriveErrorSeries} (lengths : ErrorLengths series) (rangeDays : ℤ) :
    ∃ rows, errorFallbackRows series rangeDays = .ok rows := by
  obtain ⟨failures, values, entries, zippedFailures, zippedValues, zippedEntries⟩ :=
    zipStrict_columns lengths.media lengths.other lengths.predictive
  rw [errorFallbackRows]
  simp only [bind, Except.bind, zippedFailures, zippedValues, zippedEntries]
  exact ⟨_, rfl⟩

/-- For each offered range that stays in `datetime`, the page draws every point, value and replacement of both series
once. -/
theorem drive_charts_draw_series [LinearOrder Celsius] (numbers : ChartNumbers Celsius) (settings : Settings)
    (tables : HistoryTables Celsius) (query : HistoryQuery) (allowed : query.rangeDays ∈ allowedChartRangeDays)
    (fits : 0 ≤ query.now - query.rangeDays * Timestamp.day) :
    ∃ temperature error axis view, loadDriveTemperatureSeries numbers.float tables query = .ok temperature ∧
      loadDriveErrorSeries numbers.float tables query = .ok error ∧
      driveChartsViewModel numbers settings tables query = .ok view ∧
      DrawsSeries temperature error query.rangeDays axis view := by
  have positive : 0 < query.rangeDays := by
    simp only [allowedChartRangeDays, List.mem_cons, List.not_mem_nil, or_false] at allowed
    omega
  obtain ⟨temperature, error, loadedTemperature, loadedError, temperatureChartable, errorChartable⟩ :=
    chartable_series numbers.float tables positive fits
  have temperatures := temperatureLengths loadedTemperature
  have errors := errorLengths loadedError
  have average := temperatureChartable.length_axisPoints.trans temperatures.average.symm
  have media := errorChartable.length_axisPoints.trans errors.media.symm
  have other := errorChartable.length_axisPoints.trans errors.other.symm
  have predictive := errorChartable.length_axisPoints.trans errors.predictive.symm
  obtain ⟨temperatureRows, listed⟩ := temperatureFallbackRows_ok numbers temperatures query.rangeDays
  obtain ⟨errorRows, errorsListed⟩ := errorFallbackRows_ok errors query.rangeDays
  refine ⟨temperature, error, mergeChartPointKeys (axisPoints temperature.toDriveSeries)
    (axisPoints error.toDriveSeries), ?_⟩
  rw [driveChartsViewModel, validateRangeDays, if_pos allowed, loadedTemperature, loadedError]
  simp only [bind, Except.bind, Except.mapError, temperatureChartable.chartPointKeys_ok, errorChartable.chartPointKeys_ok,
    zipStrict_ok average, zipStrict_ok media, zipStrict_ok other, zipStrict_ok predictive, listed, errorsListed]
  refine ⟨_, trivial, trivial, rfl, ?_⟩
  constructor
  · exact fun point => mem_mergeChartPointKeys
  · exact nodup_mergeChartPointKeys
  · exact sorted_mergeChartPointKeys
  · exact sublist_mergeChartPointKeys errorChartable.nodup_axisPoints errorChartable.sorted_axisPoints
  · rfl
  · rfl
  · exact plots average temperatureChartable.nodup_axisPoints
  · exact plots media errorChartable.nodup_axisPoints
  · exact plots other errorChartable.nodup_axisPoints
  · exact plots predictive errorChartable.nodup_axisPoints
  · intro marker replacement
    have placed : ∃ point ∈ mergeChartPointKeys (axisPoints temperature.toDriveSeries) (axisPoints error.toDriveSeries),
        point.timestamp = marker.timestamp ∧ point.serialNumber = marker.currentSerialNumber := by
      rcases replacement with shown | shown
      · obtain ⟨point, member, same⟩ := temperatureChartable.replaced marker shown
        exact ⟨point, mem_mergeChartPointKeys.mpr (.inl member), same⟩
      · obtain ⟨point, member, same⟩ := errorChartable.replaced marker shown
        exact ⟨point, mem_mergeChartPointKeys.mpr (.inr member), same⟩
    obtain ⟨point, member, time, serial⟩ := placed
    obtain ⟨mark, drawn, marks⟩ := exists_mark replacement member time serial
    exact ⟨mark, ⟨drawn, marks⟩, fun other also => also.2.eq marks⟩
  · exact fun mark member => replacement_of_mem member
  · exact nodup_chartReplacementMarkers
  · rfl

private def chartedReading (capturedAt : ℤ) (serial : String) (temperature : Option ℤ) : Reading :=
  ⟨capturedAt, 252, 4, 9, serial, "Onln", some 0, temperature, 0, 0, 0, false⟩

/-- The old drive's reading at ten has no temperature: it hides the row of its hour from the errors alone. -/
private def chartedTables : HistoryTables ℤ where
  raw := [⟨7, chartedReading (20 * Timestamp.day + 10 * Timestamp.hour) "OLD" none⟩,
    ⟨8, chartedReading (20 * Timestamp.day + 11 * Timestamp.hour) "NEW" (some 31)⟩]
  hourly := [⟨3, ⟨20 * Timestamp.day + 10 * Timestamp.hour, 252, 4, "OLD"⟩, ⟨some 30, some 34, 12, 0, 0, 0, 12⟩, some 32⟩]
  daily := []
  rawIds := by decide
  hourlyIds := by decide
  dailyIds := List.nodup_nil

private def chartedQuery : HistoryQuery := ⟨252, 4, "NEW", 30, 40 * Timestamp.day⟩

private def wholeDegrees : ChartNumbers ℤ := ⟨id, (· + 5), fun value => toString value ++ ".0"⟩

theorem drive_charts_draw_series_replaced :
    ∃ temperature error axis view, loadDriveTemperatureSeries id chartedTables chartedQuery = .ok temperature ∧
      loadDriveErrorSeries id chartedTables chartedQuery = .ok error ∧
      driveChartsViewModel wholeDegrees .default chartedTables chartedQuery = .ok view ∧
      DrawsSeries temperature error 30 axis view :=
  drive_charts_draw_series wholeDegrees .default chartedTables chartedQuery (by decide) (by decide)

end View

end MegaraidDashboard.Web
