import MegaraidDashboard.Model.Db.Retention

/-! # Conservation of measurements under retention

Every saved reading is stored raw, counted in the hourly row of its hour, or counted in the daily
row of its day. The hourly window may not be shorter than the raw window: an hour that reaches the
hourly table after its day was folded overwrites the daily row with a partial one.
-/

namespace MegaraidDashboard.Db

open Timestamp

/-- The readings are what the row counts: lengths and extrema agree. -/
structure RowAccounts (group : List Reading) (row : PhysicalDriveMetrics) : Prop where
  nonempty : group ≠ []
  sampleCount : row.sampleCount = group.length
  temperatureMin : (group.filterMap (·.drive.temperatureCelsius)).min? = row.temperatureMin
  temperatureMax : (group.filterMap (·.drive.temperatureCelsius)).max? = row.temperatureMax
  temperatureSampleCount :
    row.temperatureSampleCount = (group.filterMap (·.drive.temperatureCelsius)).length
  mediaErrorsMax : (group.map (·.drive.mediaErrors)).max? = some row.mediaErrorsMax
  otherErrorsMax : (group.map (·.drive.otherErrors)).max? = some row.otherErrorsMax
  predictiveFailuresMax :
    (group.map (·.drive.predictiveFailures)).max? = some row.predictiveFailuresMax

/-- The table has one row for every key that the readings carry, and it counts exactly these. -/
def TableAccounts (key : Reading → BucketKey) (counted : List Reading) (table : MetricsTable) : Prop :=
  ∀ k, match table.lookup k with
    | none => (counted.filter fun reading => decide (key reading = k)) = []
    | some row => RowAccounts (counted.filter fun reading => decide (key reading = k)) row

/-- Every saved reading is accounted for exactly once. -/
def Accounted (saved : List Reading) (store : MetricsStore) : Prop :=
  ∃ hourly daily : List Reading,
    saved.Perm (readings store.snapshots ++ (hourly ++ daily)) ∧
    TableAccounts Reading.hourKey hourly store.hourly ∧
    TableAccounts Reading.dayKey daily store.daily

/-- Error counters count, so they start at zero. -/
def Reading.CountersNonneg (reading : Reading) : Prop :=
  0 ≤ reading.drive.mediaErrors ∧ 0 ≤ reading.drive.otherErrors ∧ 0 ≤ reading.drive.predictiveFailures

/-! ## Accumulators -/

private theorem max?_eq_foldl_of_nonneg {values : List ℤ} (nonempty : values ≠ [])
    (nonneg : ∀ v ∈ values, 0 ≤ v) : values.max? = some (values.foldl max 0) := by
  cases values with
  | nil => exact absurd rfl nonempty
  | cons v rest =>
    rw [List.max?_cons', List.foldl_cons, max_eq_right (nonneg v (List.mem_cons_self ..))]

private theorem raw_fold (group : List Reading) (start : RawMetricsAccumulator) :
    group.foldl RawMetricsAccumulator.add start =
      { mediaErrorsMax := (group.map (·.drive.mediaErrors)).foldl max start.mediaErrorsMax
        otherErrorsMax := (group.map (·.drive.otherErrors)).foldl max start.otherErrorsMax
        predictiveFailuresMax :=
          (group.map (·.drive.predictiveFailures)).foldl max start.predictiveFailuresMax
        sampleCount := start.sampleCount + group.length
        temperatures := start.temperatures ++ group.filterMap (·.drive.temperatureCelsius) } := by
  induction group generalizing start with
  | nil => simp
  | cons reading rest ih =>
    rw [List.foldl_cons, ih]
    simp only [RawMetricsAccumulator.add, List.map_cons, List.foldl_cons, List.length_cons,
      List.filterMap_cons, RawMetricsAccumulator.mk.injEq, true_and]
    refine ⟨by omega, ?_⟩
    cases reading.drive.temperatureCelsius <;> simp

/-- The hourly upsert counts exactly the readings of its bucket. -/
theorem RawMetricsAccumulator.row_accounts {group : List Reading} (nonempty : group ≠ [])
    (nonneg : ∀ reading ∈ group, reading.CountersNonneg) :
    RowAccounts group (group.foldl RawMetricsAccumulator.add {}).row := by
  have counters (field : Reading → ℤ) (low : ∀ reading ∈ group, 0 ≤ field reading) :
      (group.map field).max? = some ((group.map field).foldl max 0) := by
    apply max?_eq_foldl_of_nonneg (by simpa using nonempty)
    intro v member
    obtain ⟨reading, present, rfl⟩ := List.mem_map.mp member
    exact low reading present
  rw [raw_fold]
  exact {
    nonempty := nonempty
    sampleCount := by simp [RawMetricsAccumulator.row]
    temperatureMin := by simp [RawMetricsAccumulator.row]
    temperatureMax := by simp [RawMetricsAccumulator.row]
    temperatureSampleCount := by simp [RawMetricsAccumulator.row]
    mediaErrorsMax := counters _ fun reading member => (nonneg reading member).1
    otherErrorsMax := counters _ fun reading member => (nonneg reading member).2.1
    predictiveFailuresMax := counters _ fun reading member => (nonneg reading member).2.2 }

private theorem hourly_fold (rows : List PhysicalDriveMetrics) (start : HourlyMetricsAccumulator) :
    rows.foldl HourlyMetricsAccumulator.add start =
      { mediaErrorsMax := (rows.map (·.mediaErrorsMax)).foldl max start.mediaErrorsMax
        otherErrorsMax := (rows.map (·.otherErrorsMax)).foldl max start.otherErrorsMax
        predictiveFailuresMax :=
          (rows.map (·.predictiveFailuresMax)).foldl max start.predictiveFailuresMax
        sampleCount := start.sampleCount + (rows.map (·.sampleCount)).sum
        temperatureSampleCount :=
          start.temperatureSampleCount + (rows.map (·.temperatureSampleCount)).sum
        temperatureMins := start.temperatureMins ++ rows.filterMap (·.temperatureMin)
        temperatureMaxes := start.temperatureMaxes ++ rows.filterMap (·.temperatureMax) } := by
  induction rows generalizing start with
  | nil => simp
  | cons row rest ih =>
    rw [List.foldl_cons, ih]
    simp only [HourlyMetricsAccumulator.add, List.map_cons, List.foldl_cons, List.sum_cons,
      List.filterMap_cons, HourlyMetricsAccumulator.mk.injEq, true_and]
    refine ⟨by omega, by omega, ?_, ?_⟩
    · cases row.temperatureMin <;> simp
    · cases row.temperatureMax <;> simp

/-- Rows that count disjoint groups fold to a row that counts their union. -/
theorem HourlyMetricsAccumulator.row_accounts {ι : Type*} {parts : List ι} {group : ι → List Reading}
    {row : ι → PhysicalDriveMetrics} (nonempty : parts ≠ [])
    (accounts : ∀ i ∈ parts, RowAccounts (group i) (row i))
    (nonneg : ∀ i ∈ parts, ∀ reading ∈ group i, reading.CountersNonneg) :
    RowAccounts (parts.flatMap group) ((parts.map row).foldl HourlyMetricsAccumulator.add {}).row := by
  have counters (field : Reading → ℤ) (column : PhysicalDriveMetrics → ℤ)
      (columnMax : ∀ i ∈ parts, ((group i).map field).max? = some (column (row i)))
      (low : ∀ i ∈ parts, ∀ reading ∈ group i, 0 ≤ field reading) :
      ((parts.flatMap group).map field).max? = some (((parts.map row).map column).foldl max 0) := by
    rw [List.map_flatMap, List.max?_flatMap columnMax, List.map_map]
    have columns : (parts.filterMap fun i => some (column (row i))) = parts.map (column ∘ row) :=
      congrFun List.filterMap_eq_map' parts
    rw [columns]
    apply max?_eq_foldl_of_nonneg (by simpa using nonempty)
    intro v member
    obtain ⟨i, present, rfl⟩ := List.mem_map.mp member
    obtain ⟨reading, inside, same⟩ := List.mem_map.mp (List.max?_mem (columnMax i present))
    rw [Function.comp_apply, ← same]
    exact low i present reading inside
  rw [hourly_fold]
  refine {
    nonempty := ?_
    sampleCount := ?_
    temperatureMin := ?_
    temperatureMax := ?_
    temperatureSampleCount := ?_
    mediaErrorsMax := counters _ (·.mediaErrorsMax) (fun i member => (accounts i member).mediaErrorsMax)
      fun i member reading inside => (nonneg i member reading inside).1
    otherErrorsMax := counters _ (·.otherErrorsMax) (fun i member => (accounts i member).otherErrorsMax)
      fun i member reading inside => (nonneg i member reading inside).2.1
    predictiveFailuresMax := counters _ (·.predictiveFailuresMax)
      (fun i member => (accounts i member).predictiveFailuresMax)
      fun i member reading inside => (nonneg i member reading inside).2.2 }
  · obtain ⟨i, member⟩ := List.exists_mem_of_ne_nil _ nonempty
    intro empty
    exact (accounts i member).nonempty (List.flatMap_eq_nil_iff.mp empty i member)
  · simp only [HourlyMetricsAccumulator.row, List.map_map, zero_add, List.length_flatMap]
    congr 1
    exact List.map_congr_left fun i member => (accounts i member).sampleCount
  · simp only [HourlyMetricsAccumulator.row, List.filterMap_flatMap, List.nil_append, List.filterMap_map]
    exact List.min?_flatMap fun i member => (accounts i member).temperatureMin
  · simp only [HourlyMetricsAccumulator.row, List.filterMap_flatMap, List.nil_append, List.filterMap_map]
    exact List.max?_flatMap fun i member => (accounts i member).temperatureMax
  · simp only [HourlyMetricsAccumulator.row, List.map_map, zero_add, List.filterMap_flatMap,
      List.length_flatMap]
    congr 1
    exact List.map_congr_left fun i member => (accounts i member).temperatureSampleCount

/-- A row counts the readings of its group in any order. -/
theorem RowAccounts.perm {first second : List Reading} {row : PhysicalDriveMetrics}
    (accounts : RowAccounts first row) (perm : first.Perm second) : RowAccounts second row where
  nonempty := fun empty => accounts.nonempty (by subst empty; exact List.perm_nil.mp perm)
  sampleCount := accounts.sampleCount.trans perm.length_eq
  temperatureMin := (List.Perm.min?_eq (perm.filterMap _)).symm.trans accounts.temperatureMin
  temperatureMax := (List.Perm.max?_eq (perm.filterMap _)).symm.trans accounts.temperatureMax
  temperatureSampleCount := accounts.temperatureSampleCount.trans (perm.filterMap _).length_eq
  mediaErrorsMax := (List.Perm.max?_eq (perm.map _)).symm.trans accounts.mediaErrorsMax
  otherErrorsMax := (List.Perm.max?_eq (perm.map _)).symm.trans accounts.otherErrorsMax
  predictiveFailuresMax :=
    (List.Perm.max?_eq (perm.map _)).symm.trans accounts.predictiveFailuresMax

/-! ## One transaction -/

theorem readings_append (first second : List ControllerSnapshot) :
    readings (first ++ second) = readings first ++ readings second := List.flatMap_append

/-- Pruning whole snapshots keeps exactly the readings behind the cutoff. -/
theorem readings_pruneRawSnapshots (store : MetricsStore) (cutoff : ℤ) :
    readings (pruneRawSnapshots store cutoff).snapshots =
      (readings store.snapshots).filter fun reading => decide (cutoff ≤ reading.capturedAt) := by
  simp only [pruneRawSnapshots, readings]
  induction store.snapshots with
  | nil => rfl
  | cons snapshot rest ih =>
    rw [List.flatMap_cons, List.filter_append, ← ih]
    by_cases kept : cutoff ≤ snapshot.capturedAt <;> simp [kept, List.filter_map, Function.comp_def]

theorem TableAccounts.row {key : Reading → BucketKey} {counted : List Reading}
    {table : MetricsTable} (accounts : TableAccounts key counted table) {k : BucketKey}
    {row : PhysicalDriveMetrics} (stored : table.lookup k = some row) :
    RowAccounts (counted.filter fun reading => decide (key reading = k)) row := by
  have := accounts k
  rwa [stored] at this

/-- A counted reading has a row under its key. -/
theorem TableAccounts.exists_row {key : Reading → BucketKey} {counted : List Reading}
    {table : MetricsTable} (accounts : TableAccounts key counted table) {reading : Reading}
    (member : reading ∈ counted) : ∃ row, table.lookup (key reading) = some row := by
  cases stored : table.lookup (key reading) with
  | some row => exact ⟨row, rfl⟩
  | none =>
    have empty := accounts (key reading)
    rw [stored] at empty
    exact absurd (List.filter_eq_nil_iff.mp empty reading member) (by simp)

/-- The hourly upsert adds complete groups: no moved reading shares a key with a counted one. -/
theorem downsampleToHourly_accounts {store : MetricsStore} {hourly : List Reading} {windowEnd : ℤ}
    (accounts : TableAccounts Reading.hourKey hourly store.hourly)
    (nonneg : ∀ reading ∈ readings store.snapshots, reading.CountersNonneg)
    (fresh : ∀ counted ∈ hourly, ∀ reading ∈ readings store.snapshots,
      counted.hourKey ≠ reading.hourKey) :
    TableAccounts Reading.hourKey (hourly ++ (readings store.snapshots).filter fun reading =>
      decide (reading.capturedAt < windowEnd)) (downsampleToHourly store windowEnd).hourly := by
  intro k
  generalize movedEq : ((readings store.snapshots).filter fun reading =>
    decide (reading.capturedAt < windowEnd)) = moved
  have movedRaw : ∀ reading ∈ moved, reading ∈ readings store.snapshots := by
    intro reading member
    rw [← movedEq] at member
    exact List.mem_of_mem_filter member
  have lookup : (downsampleToHourly store windowEnd).hourly.lookup k = _ :=
    AList.lookup_upsertAll _ _ _ k
  rw [AList.lookup_groupFold, movedEq] at lookup
  rw [lookup, List.filter_append]
  by_cases none : (moved.filter fun reading => decide (reading.hourKey = k)) = []
  · simp only [none, ↓reduceIte, Option.map_none, Option.none_or, List.append_nil]
    exact accounts k
  · simp only [none, ↓reduceIte, Option.map_some, Option.some_or]
    obtain ⟨reading, member⟩ := List.exists_mem_of_ne_nil _ none
    obtain ⟨inMoved, atKey⟩ := List.mem_filter.mp member
    have old : (hourly.filter fun counted => decide (counted.hourKey = k)) = [] := by
      apply List.filter_eq_nil_iff.mpr
      intro counted present same
      exact fresh counted present reading (movedRaw reading inMoved)
        ((of_decide_eq_true same).trans (of_decide_eq_true atKey).symm)
    rw [old, List.nil_append]
    exact RawMetricsAccumulator.row_accounts none fun other present =>
      nonneg other (movedRaw other (List.mem_of_mem_filter present))

/-- The daily upsert folds the hourly rows of whole days, when no day already has a daily row. -/
theorem downsampleToDaily_accounts {store : MetricsStore} {hourly daily : List Reading}
    {windowEnd : ℤ} (aligned : day ∣ windowEnd)
    (hourlyAccounts : TableAccounts Reading.hourKey hourly store.hourly)
    (dailyAccounts : TableAccounts Reading.dayKey daily store.daily)
    (nonneg : ∀ reading ∈ hourly, reading.CountersNonneg)
    (fresh : ∀ counted ∈ daily, ∀ reading ∈ hourly, counted.dayKey ≠ reading.dayKey) :
    TableAccounts Reading.dayKey (daily ++ hourly.filter fun reading =>
      decide (reading.capturedAt < windowEnd)) (downsampleToDaily store windowEnd).daily := by
  have hourAligned : hour ∣ windowEnd := (Dvd.intro_left 24 day_eq.symm).trans aligned
  have before (reading : Reading) :
      reading.hourKey.bucketStart < windowEnd ↔ reading.capturedAt < windowEnd :=
    lt_iff_lt_of_le_iff_le (le_hourBucket_iff hourAligned reading.capturedAt)
  have dayOfHour (reading : Reading) : reading.hourKey.day = reading.dayKey := by
    simp only [BucketKey.day, Reading.hourKey, Reading.dayKey, dayBucket_hourBucket]
  intro k
  generalize entriesEq : (store.hourly.entries.filter fun entry =>
    decide (entry.1.bucketStart < windowEnd)).filter (fun entry => decide (entry.1.day = k)) = entries
  have inTable : ∀ entry ∈ entries, store.hourly.lookup entry.1 = some entry.2 ∧
      entry.1.bucketStart < windowEnd ∧ entry.1.day = k := by
    intro entry member
    rw [← entriesEq, List.mem_filter, List.mem_filter, decide_eq_true_eq, decide_eq_true_eq] at member
    exact ⟨AList.mem_lookup_iff.mpr member.1.1, member.1.2, member.2⟩
  have distinct : (entries.map Sigma.fst).Nodup := by
    rw [← entriesEq]
    exact store.hourly.nodupKeys.sublist (List.filter_sublist.trans List.filter_sublist)
  -- The rows folded for `k` and the readings that move to `k` are the same readings.
  have groups : (entries.flatMap fun entry =>
      hourly.filter fun reading => decide (reading.hourKey = entry.1)).Perm
      ((hourly.filter fun reading => decide (reading.capturedAt < windowEnd)).filter
        fun reading => decide (reading.dayKey = k)) := by
    have cut := List.flatMap_filter_key_perm_filter_mem Reading.hourKey hourly distinct
    rw [List.flatMap_map] at cut
    refine cut.trans (.of_eq ?_)
    rw [List.filter_filter]
    apply List.filter_congr
    intro reading member
    rw [← Bool.decide_and, decide_eq_decide]
    constructor
    · intro covered
      obtain ⟨entry, present, same⟩ := List.mem_map.mp covered
      obtain ⟨_, early, sameDay⟩ := inTable entry present
      rw [same] at early sameDay
      exact ⟨(dayOfHour reading).symm.trans sameDay, (before reading).mp early⟩
    · rintro ⟨sameDay, early⟩
      obtain ⟨row, stored⟩ := hourlyAccounts.exists_row member
      refine List.mem_map.mpr ⟨⟨reading.hourKey, row⟩, ?_, rfl⟩
      rw [← entriesEq, List.mem_filter, List.mem_filter, decide_eq_true_eq, decide_eq_true_eq]
      exact ⟨⟨AList.mem_lookup_iff.mp stored, (before reading).mpr early⟩,
        (dayOfHour reading).trans sameDay⟩
  have lookup : (downsampleToDaily store windowEnd).daily.lookup k = _ :=
    AList.lookup_upsertAll _ _ _ k
  rw [AList.lookup_groupFold, entriesEq] at lookup
  rw [lookup, List.filter_append]
  by_cases none : entries = []
  · have unmoved : ((hourly.filter fun reading => decide (reading.capturedAt < windowEnd)).filter
        fun reading => decide (reading.dayKey = k)) = [] := by
      rw [none, List.flatMap_nil] at groups
      exact List.nil_perm.mp groups
    simp only [none, ↓reduceIte, Option.map_none, Option.none_or, unmoved, List.append_nil]
    exact dailyAccounts k
  · simp only [none, ↓reduceIte, Option.map_some, Option.some_or]
    have rows := @HourlyMetricsAccumulator.row_accounts _ _ _ (fun entry => entry.2) none
      (fun entry member => hourlyAccounts.row (inTable entry member).1)
      (fun entry _ reading member => nonneg reading (List.mem_of_mem_filter member))
    rw [List.foldl_map] at rows
    have moved := rows.perm groups
    have old : (daily.filter fun counted => decide (counted.dayKey = k)) = [] := by
      obtain ⟨reading, member⟩ := List.exists_mem_of_ne_nil _ moved.nonempty
      obtain ⟨early, atKey⟩ := List.mem_filter.mp member
      apply List.filter_eq_nil_iff.mpr
      intro counted present same
      exact fresh counted present reading (List.mem_of_mem_filter early)
        ((of_decide_eq_true same).trans (of_decide_eq_true atKey).symm)
    rw [old, List.nil_append]
    exact moved

/-- Pruning the hourly table removes whole rows together with the readings they count. -/
theorem pruneHourlyMetrics_accounts {store : MetricsStore} {hourly : List Reading} {cutoff : ℤ}
    (aligned : day ∣ cutoff) (accounts : TableAccounts Reading.hourKey hourly store.hourly) :
    TableAccounts Reading.hourKey (hourly.filter fun reading => decide (cutoff ≤ reading.capturedAt))
      (pruneHourlyMetrics store cutoff).hourly := by
  have hourAligned : hour ∣ cutoff := (Dvd.intro_left 24 day_eq.symm).trans aligned
  intro k
  rw [pruneHourlyMetrics, AList.lookup_filterKeys, List.filter_filter]
  by_cases kept : cutoff ≤ k.bucketStart
  · have same : (hourly.filter fun reading =>
        decide (reading.hourKey = k) && decide (cutoff ≤ reading.capturedAt)) =
        hourly.filter fun reading => decide (reading.hourKey = k) := by
      apply List.filter_congr
      intro reading _
      by_cases atKey : reading.hourKey = k
      · subst atKey
        simp [(le_hourBucket_iff hourAligned reading.capturedAt).mp kept]
      · simp [atKey]
    rw [same, if_pos (decide_eq_true kept)]
    exact accounts k
  · rw [if_neg (by simpa using kept)]
    apply List.filter_eq_nil_iff.mpr
    intro reading _ both
    simp only [Bool.and_eq_true, decide_eq_true_eq] at both
    obtain ⟨rfl, late⟩ := both
    exact kept ((le_hourBucket_iff hourAligned reading.capturedAt).mpr late)

/-- Repeating a transaction at the same time finds nothing left to move. -/
theorem runRetentionTransaction_idempotent {settings : RetentionSettings} {store after : MetricsStore}
    {now : ℤ} (success : runRetentionTransaction settings store now = some after) :
    runRetentionTransaction settings after now = some after := by
  simp only [runRetentionTransaction, Option.bind_eq_bind, Option.bind_eq_some_iff] at success ⊢
  obtain ⟨rawCut, rawEq, hourlyCut, hourlyEq, final⟩ := success
  refine ⟨rawCut, rawEq, hourlyCut, hourlyEq, ?_⟩
  obtain rfl := Option.some.inj final
  generalize folded : downsampleToDaily (downsampleToHourly store rawCut) hourlyCut = middle
  have noRaw : (readings (pruneHourlyMetrics (pruneRawSnapshots middle rawCut) hourlyCut).snapshots).filter
      (fun reading => decide (reading.capturedAt < rawCut)) = [] := by
    change (readings (pruneRawSnapshots middle rawCut).snapshots).filter _ = []
    rw [readings_pruneRawSnapshots, List.filter_eq_nil_iff]
    intro reading member
    have := of_decide_eq_true (List.mem_filter.mp member).2
    simp only [decide_eq_true_eq]; omega
  have noHourly : (pruneHourlyMetrics (pruneRawSnapshots middle rawCut) hourlyCut).hourly.entries.filter
      (fun entry => decide (entry.1.bucketStart < hourlyCut)) = [] := by
    rw [List.filter_eq_nil_iff]
    intro entry member
    have := of_decide_eq_true (List.mem_filter.mp member).2
    simp only [decide_eq_true_eq]; omega
  have still : downsampleToHourly (pruneHourlyMetrics (pruneRawSnapshots middle rawCut) hourlyCut) rawCut =
      pruneHourlyMetrics (pruneRawSnapshots middle rawCut) hourlyCut := by
    simp only [downsampleToHourly, noRaw]
    rfl
  have stillDaily : downsampleToDaily (pruneHourlyMetrics (pruneRawSnapshots middle rawCut) hourlyCut)
      hourlyCut = pruneHourlyMetrics (pruneRawSnapshots middle rawCut) hourlyCut := by
    simp only [downsampleToDaily, noHourly]
    rfl
  rw [still, stillDaily]
  simp only [pruneHourlyMetrics, pruneRawSnapshots, AList.filterKeys, List.filter_filter, Bool.and_self]
  rfl

end MegaraidDashboard.Db
